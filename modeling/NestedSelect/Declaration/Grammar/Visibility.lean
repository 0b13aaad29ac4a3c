import NestedSelect.Declaration.Grammar.Basic
/-!
Visibility, and imports of names.
-/

namespace NestedSelect.Declaration

open Reader

/-- A visibility that is restricted to one of the modules around. -/
def nextRestriction : Lookahead := fun tokens =>
  nextGroup .parenthesis tokens && nextWordOf ["crate", "self", "super"] (tokens.drop 1)
    && atEnd (tokens.drop 2)

/-- A visibility that is restricted to a module with a path. -/
def nextPathRestriction : Lookahead := fun tokens =>
  nextGroup .parenthesis tokens && nextWord "in" (tokens.drop 1)

/-- A visibility, which may be missing. It is told whether it is there. -/
def visibility : Reader Bool := do
  if ← wordIf "pub" then
    if ← sees nextRestriction then
      let _ ← group .parenthesis anyWord
    else if ← sees nextPathRestriction then
      group .parenthesis do
        word "in"
        let _ ← plainPath
    return true
  else if (← sees (nextWord "crate")) && !(← sees (second (nextMarks "::"))) then
    word "crate"
    return true
  else return false

/-- A new name for what is imported. -/
def importedName : Reader Unit := do
  if ← sees (nextOf [nextIdentifier, nextWord "_"]) then
    let _ ← anyWord
  else failMissing "identifier or underscore"

/-- What is imported: a name, all names, or several imports in braces, which are read by
`subtree`.
-/
def importsOver (subtree : Reader Unit) : Reader Unit := do
  if ← sees (nextOf [nextIdentifier, nextWordOf ["self", "super", "crate"]]) then
    let _ ← anyWord
    if ← marksIf "::" then subtree
    else if ← wordIf "as" then importedName
  else if ← sees (nextMark '*') then marks "*"
  else if ← sees (nextGroup .brace) then
    let _ ← group .brace (listed subtree)
  else
    failMissingOf
      ["identifier", named "self", named "super", named "crate", named "*", "curly braces"]

/-- What is imported, with imports inside of imports up to a depth. -/
def importsOfDepth : Nat → Reader Unit
  | 0 => failMissingOf []
  | depth + 1 => importsOver (delay fun _ => importsOfDepth depth)

/-- What is imported. -/
def imports : Reader Unit := do
  importsOfDepth ((← remaining) + 1)

end NestedSelect.Declaration
