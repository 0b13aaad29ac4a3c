import NestedSelect.Declaration.Grammar.Generics
import NestedSelect.Declaration.Grammar.Pattern
/-!
Signatures of functions: qualifiers, a name, generic parameters, arguments, a return type and a
where clause. The name, the first argument, dots behind all arguments and the return type are kept.
-/

namespace NestedSelect.Declaration

open Reader

/-- A signature as far as it matters for a member. -/
structure Signature where
  name : String
  /-- Where the first argument starts, if there is one. -/
  firstArgument : Option Position
  /-- Where dots stand behind all arguments, if they do. They are not an argument themselves. -/
  dots : Option Position
  returns : Option TypeShape
deriving Repr

/-- The arguments of a signature so far. -/
structure SignatureArguments where
  /-- Where the first of them starts, if it counts as one. -/
  first : Option Position := none
  /-- Where dots stand behind all of them, if they do. -/
  dots : Option Position := none
  count : Nat := 0
  hasReceiver : Bool := false

/-- What comes in front of the word in a receiver: a reference and whether it is mutable. Where a
type follows it is no receiver, and nothing is read.
-/
def receiverStart : Reader (Option Unit) :=
  attempt do
    if ← marksIf "&" then
      let _ ← lifetimeIf
    let _ ← wordIf "mut"
    let isReceiver ← sees fun tokens =>
      nextWord "self" tokens && !nextMark ':' (tokens.drop 1)
    return if isReceiver then some () else none

/-- The word in a receiver. There is one receiver at most, and it is the first argument. -/
def receiver (arguments : SignatureArguments) : Reader Unit :=
  whole do
    word "self"
    return if arguments.hasReceiver then .error .secondReceiver
      else if arguments.count > 0 then .error .misplacedReceiver
      else .ok ()

namespace Grammar

variable (g : Grammar)

/-- An argument that is no receiver: a pattern and its type. A type with arguments may also stand
alone, and is written with a pattern for anything.
-/
def typedArgument : Reader Unit := do
  if (← sees nextIdentifier) && (← sees (second (nextMark '<'))) then
    write [.synthetic .word "_", .synthetic (.mark ':' false) ":"]
    let _ ← g.type true
  else
    g.alternatives
    marks ":"
    unless ← marksIf "..." do
      let _ ← g.type true

/-- One argument. Dots alone are none, unless a comma follows them. -/
def signatureArgument (arguments : SignatureArguments) : Reader SignatureArguments := do
  let position ← look place
  let _ ← attributes
  let first := if arguments.count = 0 then some position else arguments.first
  if ← marksIf "..." then
    let isLast ← sees atEnd
    let first := if isLast && arguments.count = 0 then none else first
    let dots := if isLast then some position else none
    return { arguments with first, dots, count := arguments.count + 1 }
  else if (← receiverStart).isSome then
    receiver arguments
    return { first, count := arguments.count + 1, hasReceiver := true }
  else
    g.typedArgument
    return { arguments with first, count := arguments.count + 1 }

/-- The arguments of a signature. -/
def signatureArguments : Reader SignatureArguments := do
  let step := fun (arguments : SignatureArguments) => do
    if ← sees atEnd then return none
    let arguments ← g.signatureArgument arguments
    unless ← sees atEnd do marks ","
    return some arguments
  iterate step {}

/-- The words in front of a function, all of which may be missing. -/
def qualifiers : Reader Unit := do
  let _ ← wordIf "const"
  let _ ← wordIf "async"
  let _ ← wordIf "unsafe"
  convention

/-- A signature. -/
def signature : Reader Signature := do
  qualifiers
  word "fn"
  let name ← identifier
  g.generics
  let arguments ← group .parenthesis g.signatureArguments
  let returns ← g.returnType true
  let _ ← g.whereClause
  return ⟨name, arguments.first, arguments.dots, returns⟩

end Grammar

end NestedSelect.Declaration
