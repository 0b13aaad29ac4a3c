import NestedSelect.Declaration.Grammar.Bound
/-!
Reading types. Of a type only its shape is kept, but all of it has to be well formed.
-/

namespace NestedSelect.Declaration

open Reader

/-- A type apart from its tokens. -/
inductive TypeForm where
  | route (route : Route)
  | slice (element : TypeShape)
  | parenthesized
  | object (single : Option Bool)
  | other
  /-- A type that is written as it is given. -/
  | verbatim

/-- The type is written as it is given. -/
def TypeForm.isVerbatim : TypeForm → Bool
  | .verbatim => true
  | _ => false

/-- What stands between parentheses in the place of a type. -/
inductive ParenthesizedTypes where
  | tuple
  /-- Bounds that start with a lifetime. -/
  | lifetimes
  /-- A bound that starts with a question mark. -/
  | optional
  | single (element : TypeShape)

/-- An object type by its bounds. -/
def TypeForm.ofBounds (bounds : List Bound) (hasTrailing : Bool) : TypeForm :=
  match bounds with
  | [.trait isParenthesized] => .object (if hasTrailing then none else some isParenthesized)
  | _ => .object none

/-- The shape of a type that starts at a position and has been read. -/
def TypeForm.shape (form : TypeForm) (position : Position) (record : Record) : TypeShape :=
  match form with
  | .route found =>
    if found.isQualified then .other position
    else .named ⟨found.last.name, record.written, position⟩ found.isApplied
  | .slice element => .slice position element
  | .parenthesized => .parenthesized position
  | .object single => .object position single
  | .other | .verbatim => .other position

/-- What a type can start with, as messages list it. -/
def typeStarts : List String :=
  [named "for", "parentheses", named "fn", named "unsafe", named "extern", "identifier",
    named "::", named "<", "square brackets", named "*", named "&", named "!", named "impl",
    named "_", "lifetime"]

/-- What follows the lifetimes for which a type is stated, as messages list it. -/
def quantifiedTypeStarts : List String :=
  ["identifier", named "fn", named "unsafe", named "extern", named "super", named "self",
    named "Self", named "crate"]

/-- A function type comes next. -/
def nextFunctionType : Lookahead := nextWordOf ["fn", "unsafe", "extern"]

/-- A path that starts with a word comes next. -/
def nextNamedType : Lookahead :=
  nextOf [nextIdentifier, nextWordOf ["super", "self", "Self", "crate"]]

/-- The calling convention of a function, which may be missing. -/
def convention : Reader Unit := do
  if ← wordIf "extern" then
    let _ ← optionally nextText (take 1)

/-- The arguments of a function type so far. -/
structure FunctionArguments where
  /-- Three dots for further arguments may stand here. -/
  allowsDots : Bool := true
  /-- There have been dots, and nothing may follow. -/
  isComplete : Bool := false
  /-- One of them is a receiver that is marked as mutable. -/
  hasReceiver : Bool := false

/-- The name of an argument in a function type, which may be missing. It is told whether the name
is that of a mutable receiver.
-/
def functionArgumentName : Reader Bool := do
  let nextName := nextOf [nextIdentifier, nextWordOf ["_", "self"]]
  if (← sees nextName) && (← sees (second nextSingleColon)) then
    let _ ← anyWord
    marks ":"
    return false
  else if (← sees (nextWord "mut")) && (← sees (second (nextWord "self")))
      && (← sees (third nextSingleColon)) then
    word "mut"
    word "self"
    marks ":"
    return true
  else return false

namespace Grammar

variable (g : Grammar)

/-- One argument of a function type. It is told whether it is a mutable receiver. -/
def functionArgument : Reader Bool := do
  let isReceiver ← functionArgumentName
  if ← marksIf "..." then return isReceiver
  else if (← sees (nextWord "mut")) && (← sees (second (nextWord "self"))) then
    word "mut"
    word "self"
    return true
  else
    let _ ← g.type true
    return isReceiver

/-- The arguments of a function type. It is told whether one of them is a mutable receiver. -/
def functionArguments : Reader Bool := do
  let step := fun (state : FunctionArguments) => do
    if state.isComplete || (← sees atEnd) then return none
    let _ ← attributes
    if state.allowsDots && (← marksIf "...") then return some { state with isComplete := true }
    let isReceiver ← g.functionArgument
    let hasReceiver := state.hasReceiver || isReceiver
    unless ← sees atEnd do marks ","
    let allowsDots := if isReceiver then state.allowsDots else !hasReceiver
    return some { state with allowsDots, hasReceiver }
  return (← iterate step {}).hasReceiver

/-- A function type. With a mutable receiver it is written as it is given. -/
def functionType : Reader TypeForm := do
  let _ ← wordIf "unsafe"
  convention
  word "fn"
  groupThen .parenthesis g.functionArguments fun hasReceiver => do
    let _ ← g.returnType false
    return if hasReceiver then .verbatim else .other

/-- A type that starts with a path. The path may also name a macro with its arguments, or be the
first bound of an object type.
-/
def namedType (allowPlus isQuantified : Bool) : Reader TypeForm := do
  let route ← g.typeRoute
  if route.isQualified then return .route route
  else if route.isPlain && (← sees nextMacroMark) then
    marks "!"
    let _ ← anyGroup
    return .other
  else if isQuantified || (allowPlus && (← sees (nextMark '+'))) then
    if allowPlus then
      let (bounds, hasTrailing) ← g.furtherBounds [.trait false]
      return .ofBounds bounds hasTrailing
    else return .object (some false)
  else return .route route

/-- A type that is marked as an object type. -/
def markedObject (allowPlus : Bool) : Reader TypeForm :=
  whole do
    word "dyn"
    let isStarred ← marksIf "*"
    let found ← g.traitBounds allowPlus .missingObjectTrait
    return found.map fun _ => if isStarred then .verbatim else .other

/-- The types between parentheses. -/
def parenthesizedTypes : Reader ParenthesizedTypes := do
  if ← sees atEnd then return .tuple
  else if ← sees nextLifetime then
    whole (g.traitBounds true .missingObjectTrait)
    return .lifetimes
  else if ← sees (nextMark '?') then
    g.traitBound
    return .optional
  else
    let first ← g.type true
    if ← marksIf "," then
      let _ ← listed (g.type true)
      return .tuple
    else return .single first

/-- Bounds behind a first one, each behind a plus sign. -/
def boundsBehind (first : Bound) : Reader TypeForm := do
  let step := fun (bounds : List Bound) => do
    if ← marksIf "+" then return some ((← g.bound ()) :: bounds) else return none
  return .ofBounds (← iterate step [first]) false

/-- What a group of types in parentheses amounts to together with what follows it. -/
def behindParentheses (allowPlus : Bool) : ParenthesizedTypes → Reader TypeForm
  | .tuple => return .other
  | .lifetimes => return .parenthesized
  | .optional => g.boundsBehind (.trait true)
  | .single element => do
    if allowPlus && (← sees (nextMark '+')) then
      match element with
      | .named .. | .object _ (some false) => g.boundsBehind (.trait true)
      | .object _ (some true) =>
        -- One pair of parentheses is enough around the bound.
        rewrite fun tokens => (tokens.drop 1).dropLast
        g.boundsBehind (.trait true)
      | _ => return .parenthesized
    else return .parenthesized

/-- A type between square brackets: a slice, or an array with its length. -/
def bracketedType : Reader TypeForm :=
  group .bracket do
    let element ← g.type true
    if ← marksIf ";" then
      let _ ← g.expression true
      return .other
    else return .slice element

/-- A type that is stated for all of some lifetimes. -/
def quantifiedType (allowPlus : Bool) : Reader TypeForm := do
  forLifetimes
  if ← sees nextFunctionType then g.functionType
  else if ← sees (nextWord "dyn") then failMissingOf []
  else if ← sees nextNamedType then g.namedType allowPlus true
  else failMissingOf quantifiedTypeStarts

/-- The target of a pointer or a reference. -/
def pointedType : Reader TypeForm := do
  let _ ← g.type false
  return .other

/-- A pointer. -/
def pointer : Reader TypeForm := do
  marks "*"
  if ← sees (nextWordOf ["const", "mut"]) then
    let _ ← anyWord
    g.pointedType
  else failMissingOf [named "const", named "mut"]

/-- A reference. -/
def reference : Reader TypeForm := do
  marks "&"
  let _ ← lifetimeIf
  let _ ← wordIf "mut"
  g.pointedType

/-- An abstract type, known by its bounds. -/
def abstractType (allowPlus : Bool) : Reader TypeForm :=
  whole do
    word "impl"
    let found ← g.traitBounds allowPlus .missingAbstractTrait
    return found.map fun _ => .other

/-- An object type whose first bound is a lifetime. -/
def lifetimeObject : Reader TypeForm := do
  whole (g.traitBounds true .missingObjectTrait)
  return .object none

/-- Any type apart from its tokens. -/
def typeForm (allowPlus : Bool) : Reader TypeForm := do
  if ← sees (nextWord "for") then g.quantifiedType allowPlus
  else if ← sees (nextGroup .parenthesis) then
    groupThen .parenthesis g.parenthesizedTypes (g.behindParentheses allowPlus)
  else if ← sees nextFunctionType then g.functionType
  else if ← sees (nextWord "dyn") then g.markedObject allowPlus
  else if ← sees (nextOf [nextNamedType, nextMarks "::", nextMark '<']) then
    g.namedType allowPlus false
  else if ← sees (nextGroup .bracket) then g.bracketedType
  else if ← sees (nextMark '*') then g.pointer
  else if ← sees (nextMark '&') then g.reference
  else if ← marksIf "!" then return .other
  else if ← sees (nextWord "impl") then g.abstractType allowPlus
  else if ← wordIf "_" then return .other
  else if ← sees nextLifetime then g.lifetimeObject
  else failMissingOf typeStarts

/-- Any type. Bounds behind a plus sign belong to it where `allowPlus` says so. -/
def readType (allowPlus : Bool) : Reader TypeShape := do
  let position ← look place
  let (form, record) ← recorded (verbatimIf TypeForm.isVerbatim (g.typeForm allowPlus))
  write record.written
  return form.shape position record

end Grammar

end NestedSelect.Declaration
