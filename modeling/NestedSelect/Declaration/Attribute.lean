import NestedSelect.Declaration.Reading
/-!
Attributes. The tokens behind the path of an attribute are kept as they are: what they have to be
depends on the attribute.
-/

namespace NestedSelect.Declaration

open Reader

/-- An attribute as it is written. -/
structure Attribute where
  /-- The attribute's name, if its path is a single name. -/
  name : Option String
  /-- Where the path starts. -/
  position : Position
  /-- What stands behind the path. -/
  tokens : List Token
deriving DecidableEq, Repr

/-- A word that can be a segment of a plain path comes next. -/
def nextPathWord : Lookahead :=
  nextOf [nextIdentifier, nextWordOf ["super", "self", "Self", "crate"]]

/-- A path of plain words, and its name if it is a single one. -/
def plainPath : Reader (Option String) := do
  let isRooted ← marksIf "::"
  let step := fun (state : List String × Bool) => do
    if !state.2 || !(← sees nextPathWord) then return none
    let name ← anyWord
    return some (name :: state.1, ← marksIf "::")
  match ← iterate step ([], true) with
  | ([], _) => failMissing "path"
  | (_, true) => failMissing "path segment"
  | ([name], false) => return if isRooted then none else some name
  | _ => return none

/-- An attribute in its brackets. -/
def bracketed : Reader Attribute :=
  group .bracket do
    let position ← look place
    let name ← plainPath
    return ⟨name, position, ← allTokens⟩

/-- All attributes that come next. -/
def attributes : Reader (List Attribute) := do
  let step := fun (found : List Attribute) => do
    if ← marksIf "#" then return some ((← bracketed) :: found) else return none
  return (← iterate step []).reverse

/-- All attributes that a block gives of itself at its start. -/
def innerAttributes : Reader (List Attribute) := do
  let step := fun (found : List Attribute) => do
    if (← sees (nextMark '#')) && (← sees (second (nextMark '!'))) then
      take 2
      return some ((← bracketed) :: found)
    else return none
  return (← iterate step []).reverse

end NestedSelect.Declaration
