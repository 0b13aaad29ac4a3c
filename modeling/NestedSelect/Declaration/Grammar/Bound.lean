import NestedSelect.Declaration.Grammar.Route
/-!
Reading bounds, and the lifetimes for which a bound or a type is stated.
-/

namespace NestedSelect.Declaration

open Reader

/-- Bounds go on behind a plus sign with this. -/
def nextBound : Lookahead :=
  nextOf [nextAnyWord, nextMarks "::", nextMark '?', nextLifetime, nextGroup .parenthesis]

/-- A lifetime with its bounds. A colon without bounds behind it is not written. -/
def lifetimeParameter : Reader Unit := do
  let _ ← attributes
  lifetime
  if ← marksIf ":" then
    let bounds ← chained "+" (nextOf [nextMark ',', nextMark '>']) lifetime
    if bounds.isEmpty then retract 1

/-- Lifetimes that a type or a bound is stated for. -/
def forLifetimes : Reader Unit := do
  word "for"
  marks "<"
  let _ ← separated (nextMark '>') lifetimeParameter
  marks ">"

namespace Grammar

variable (g : Grammar)

/-- A trait, perhaps optional and perhaps for all of some lifetimes. -/
def traitBound : Reader Unit := do
  if (← sees (nextMark '~')) && (← sees (second (nextWord "const"))) then take 2
  let _ ← marksIf "?"
  let _ ← optionally (nextWord "for") forLifetimes
  let route ← g.namedRoute false
  if route.last.arguments.isEmpty && (← sees nextParenthesized) then
    let _ ← g.parenthesizedArguments route

/-- One bound: a lifetime or a trait. -/
def readBound : Reader Bound := do
  if ← lifetimeIf then return .lifetime
  else if ← sees (nextGroup .parenthesis) then
    group .parenthesis g.traitBound
    return .trait true
  else
    g.traitBound
    return .trait false

/-- Bounds behind others, each behind a plus sign. It is told whether the last plus sign has no
bound behind it.
-/
def furtherBounds (bounds : List Bound) : Reader (List Bound × Bool) := do
  let step := fun (state : List Bound × Bool) => do
    if state.2 || !(← marksIf "+") then return none
    if ← sees nextBound then return some ((← g.bound ()) :: state.1, false)
    else return some (state.1, true)
  iterate step (bounds, false)

/-- Bounds with plus signs between them, where these belong to them. -/
def bounds (allowPlus : Bool) : Reader (List Bound) := do
  let first ← g.bound ()
  if allowPlus then return (← g.furtherBounds [first]).1 else return [first]

/-- Bounds of which one has to be a trait. -/
def traitBounds (allowPlus : Bool) (fault : Fault) : Reader (Except Fault Unit) := do
  let bounds ← g.bounds allowPlus
  return if Bound.hasTrait bounds then .ok () else .error fault

end Grammar

end NestedSelect.Declaration
