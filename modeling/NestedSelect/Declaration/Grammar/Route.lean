import NestedSelect.Declaration.Grammar.Basic
/-!
Reading paths: names with two colons between them, of which each may have arguments. In an
expression, arguments in angle brackets stand behind two colons, so that the bracket is not taken
for a comparison.
-/

namespace NestedSelect.Declaration

open Reader

/-- The arguments of a name in a path. -/
inductive Arguments where
  | none
  /-- Arguments in angle brackets. If there are none, it is told how many tokens that took. -/
  | angle (isEmpty : Bool) (length : Nat)
  | parenthesized
deriving DecidableEq, Repr

/-- No argument is given, be it with or without brackets. -/
def Arguments.isEmpty : Arguments → Bool
  | .none => true
  | .angle isEmpty _ => isEmpty
  | .parenthesized => false

/-- A name in a path. -/
structure Segment where
  name : String
  arguments : Arguments
deriving DecidableEq, Repr

/-- A path by its names. -/
structure Route where
  /-- It starts with a type in angle brackets. -/
  isQualified : Bool
  /-- It starts with two colons. -/
  isRooted : Bool
  /-- All names but the last one, the last one of these first. -/
  earlier : List Segment
  last : Segment
deriving DecidableEq, Repr

namespace Route

/-- The path goes on with another name. -/
def append (route : Route) (segment : Segment) : Route :=
  { route with earlier := route.last :: route.earlier, last := segment }

/-- The last name has arguments in parentheses. -/
def parenthesize (route : Route) : Route :=
  { route with last := { route.last with arguments := .parenthesized } }

/-- No name has arguments, not even empty ones. -/
def isPlain (route : Route) : Bool :=
  (route.last :: route.earlier).all (·.arguments = .none)

/-- The path is a single name with arguments in angle brackets. -/
def isApplied (route : Route) : Bool :=
  !route.isQualified && !route.isRooted && route.earlier.isEmpty
    && match route.last.arguments with
      | .angle .. => true
      | _ => false

end Route

/-- The name of a macro is complete, and its arguments follow. -/
def nextMacroMark : Lookahead := fun tokens => nextMark '!' tokens && !nextMarks "!=" tokens

/-- Two colons that are no single one come next. -/
def nextSingleColon : Lookahead := fun tokens => nextMark ':' tokens && !nextMarks "::" tokens

/-- An argument list in angle brackets comes next. -/
def nextArguments (inExpression : Bool) : Lookahead := fun tokens =>
  (!inExpression && nextMark '<' tokens && !nextMarks "<=" tokens)
    || (nextMarks "::" tokens && third (nextMark '<') tokens)

/-- An argument list in parentheses comes next. -/
def nextParenthesized : Lookahead := fun tokens =>
  nextGroup .parenthesis tokens
    || (nextMarks "::" tokens && third (nextGroup .parenthesis) tokens)

namespace Grammar

variable (g : Grammar)

/-- A constant among arguments: a literal or a block. -/
def constant : Reader Unit := do
  if ← sees nextLiteral then literal
  else
    let _ ← g.attributedBlock

/-- A constant that a parameter stands for by default. -/
def defaultConstant : Reader Unit := do
  if ← sees nextLiteral then literal
  else if ← sees nextIdentifier then
    let _ ← identifier
  else if ← sees (nextGroup .brace) then
    let _ ← g.attributedBlock
  else failMissingOf []

/-- What the name of an associated type or constant is bound to. A constant is written as it is
given.
-/
def boundValue : Reader Unit := do
  if ← sees (nextOf [nextLiteral, nextGroup .brace]) then verbatim g.constant
  else
    let _ ← g.type true

/-- The bounds of an associated type among arguments. -/
def constraintBounds : Reader (List Bound) :=
  chained "+" (nextOf [nextMark ',', nextMark '>']) (g.bound ())

/-- A type among arguments. Where it is a name with arguments of its own, something may be bound
to that, and all of this is written as it is given.
-/
def typeArgument : Reader Unit := do
  let _ ← verbatimIf id do
    match ← g.type true with
    | .named _ true =>
      if ← marksIf "=" then
        let _ ← g.type true
        return true
      else if ← marksIf ":" then
        let _ ← g.constraintBounds
        return true
      else return false
    | _ => return false

/-- One argument: a lifetime, a constant, a type, or a name with what is bound to it. It is told
whether it is a lifetime.
-/
def argument : Reader Bool := do
  if (← sees nextLifetime) && !(← sees (second (nextMark '+'))) then
    lifetime
    return true
  else if (← sees nextIdentifier) && (← sees (second (nextMark '='))) then
    let _ ← identifier
    marks "="
    g.boundValue
    return false
  else if (← sees nextIdentifier) && (← sees (second nextSingleColon)) then
    let _ ← identifier
    marks ":"
    let _ ← g.constraintBounds
    return false
  else if ← sees (nextOf [nextLiteral, nextGroup .brace]) then
    g.constant
    return false
  else
    g.typeArgument
    return false

/-- Arguments in angle brackets, perhaps behind two colons. Lifetimes are written first. -/
def angleArguments : Reader Arguments := do
  let hasColons ← marksIf "::"
  marks "<"
  let arguments ← pieces (nextMark '>') g.argument
  writeLifetimesFirst arguments
  marks ">"
  return .angle arguments.isEmpty (if hasColons then 4 else 2)

/-- One name of a path with its arguments. -/
def segment (inExpression : Bool) : Reader Segment := do
  if ← sees (nextWordOf ["super", "self", "crate"]) then return ⟨← anyWord, .none⟩
  else
    let name ← if ← sees (nextWord "Self") then anyWord else identifier
    if ← sees (nextArguments inExpression) then return ⟨name, ← g.angleArguments⟩
    else return ⟨name, .none⟩

/-- The names behind those that have been read. Two colons in front of parentheses are not part of
them.
-/
def furtherSegments (inExpression : Bool) (route : Route) : Reader Route := do
  let step := fun (route : Route) => do
    if (← sees (nextMarks "::")) && !(← sees (third (nextGroup .parenthesis))) then
      marks "::"
      return some (route.append (← g.segment inExpression))
    else return none
  iterate step route

/-- A path that starts with a name. -/
def namedRoute (inExpression : Bool) : Reader Route := do
  let isRooted ← marksIf "::"
  let first ← g.segment inExpression
  g.furtherSegments inExpression ⟨false, isRooted, [], first⟩

/-- A path that starts with a type in angle brackets, which may be seen as a trait. -/
def qualifiedRoute (inExpression : Bool) : Reader Route := do
  marks "<"
  let _ ← g.type true
  if ← wordIf "as" then
    let _ ← g.namedRoute false
  marks ">"
  marks "::"
  let step := fun (route : Route) => do
    if ← marksIf "::" then return some (route.append (← g.segment inExpression))
    else return none
  iterate step ⟨true, false, [], ← g.segment inExpression⟩

/-- A path of either kind. -/
def route (inExpression : Bool) : Reader Route := do
  if ← sees (nextMark '<') then g.qualifiedRoute inExpression else g.namedRoute inExpression

/-- A path to a type, without arguments in parentheses. -/
def path : Reader Path := do
  let position ← look place
  let (route, record) ← recorded (g.namedRoute false)
  write record.written
  return ⟨route.last.name, record.written, position⟩

/-- The type behind an arrow, which may be missing. -/
def returnType (allowPlus : Bool) : Reader (Option TypeShape) := do
  if ← marksIf "->" then return some (← g.type allowPlus) else return none

/-- Arguments in parentheses for the last name of a path, and the type that they lead to. Neither
two colons in front of them nor empty angle brackets are written.
-/
def parenthesizedArguments (route : Route) : Reader (Option TypeShape) := do
  match route.last.arguments with
  | .angle _ length => retract length
  | _ => pure ()
  let _ ← unwritten (marksIf "::")
  let _ ← group .parenthesis (listed (g.type true))
  g.returnType false

/-- A path in the place of a type, where a last name without arguments may have arguments in
parentheses. Behind these the path may go on.
-/
def typeRoute : Reader Route := do
  let step := fun (route : Route) => do
    if route.last.arguments.isEmpty && (← sees nextParenthesized) then
      match ← g.parenthesizedArguments route with
      | none | some (.parenthesized _) => return some (← g.furtherSegments false route.parenthesize)
      | some _ => return some route.parenthesize
    else return none
  iterate step (← g.route false)

end Grammar

end NestedSelect.Declaration
