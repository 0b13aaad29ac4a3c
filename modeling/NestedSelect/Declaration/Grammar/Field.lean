import NestedSelect.Declaration.Grammar.Visibility
import NestedSelect.Declaration.Grammar.Operation
import NestedSelect.Declaration.Grammar.Signature
/-!
Reading the definitions of types: structures, unions and enumerations with their fields.
-/

namespace NestedSelect.Declaration

open Reader

/-- Fields without a name of their own come next. -/
def nextUnnamedFields : Lookahead := fun tokens =>
  nextWord "struct" tokens || (nextWord "union" tokens && second (nextGroup .brace) tokens)

namespace Grammar

variable (g : Grammar)

/-- A field with its name and its type. An underscore may also stand for fields in braces, which
are read by `fields`.
-/
def namedFieldOver (fields : Reader Unit) : Reader Unit := do
  let _ ← attributes
  let _ ← visibility
  let isUnnamed ← wordIf "_"
  unless isUnnamed do
    let _ ← identifier
  marks ":"
  if isUnnamed && (← sees nextUnnamedFields) then
    verbatim do
      let _ ← anyWord
      fields
  else
    let _ ← g.type true

/-- Fields with names in braces, with fields inside of fields up to a depth. -/
def namedFieldsOfDepth : Nat → Reader Unit
  | 0 => failMissingOf []
  | depth + 1 =>
    group .brace do
      let _ ← listed (g.namedFieldOver (delay fun _ => namedFieldsOfDepth depth))

/-- Fields with names in braces. -/
def namedFields : Reader Unit := do
  g.namedFieldsOfDepth ((← remaining) + 1)

/-- Fields without names in parentheses. -/
def numberedFieldTypes : Reader Unit :=
  group .parenthesis do
    let _ ← listed do
      let _ ← attributes
      let _ ← visibility
      g.type true

/-- What follows the fields of a structure in parentheses. -/
def structureEnd : Reader Unit := do
  let hasClause ← g.whereClause
  if ← sees (nextMark ';') then marks ";"
  else failMissingOf ((if hasClause then [] else [named "where"]) ++ [named ";"])

/-- A structure behind its name and parameters. -/
def structureBody : Reader Unit := do
  let hasClause ← g.whereClause
  if !hasClause && (← sees (nextGroup .parenthesis)) then
    g.numberedFieldTypes
    g.structureEnd
  else if ← sees (nextGroup .brace) then g.namedFields
  else if ← sees (nextMark ';') then marks ";"
  else
    failMissingOf ((if hasClause then [] else [named "where", "parentheses"])
      ++ ["curly braces", named ";"])

/-- A case of an enumeration. Its visibility is not written. -/
def enumerationCase : Reader Unit := do
  let _ ← attributes
  let _ ← unwritten visibility
  let _ ← identifier
  if ← sees (nextGroup .brace) then g.namedFields
  else if ← sees (nextGroup .parenthesis) then g.numberedFieldTypes
  if ← marksIf "=" then
    let _ ← g.expression true

/-- The name and the parameters of what is defined, behind a word. -/
def heading (mark : String) : Reader Unit := do
  word mark
  let _ ← identifier
  g.generics

/-- A structure. -/
def structureItem : Reader Unit := do
  g.heading "struct"
  g.structureBody

/-- A union. -/
def unionItem : Reader Unit := do
  g.heading "union"
  let _ ← g.whereClause
  g.namedFields

/-- An enumeration. -/
def enumerationItem : Reader Unit := do
  g.heading "enum"
  let _ ← g.whereClause
  group .brace do
    let _ ← listed g.enumerationCase

end Grammar

end NestedSelect.Declaration
