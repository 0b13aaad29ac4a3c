import NestedSelect.Declaration.Grammar.Complete
/-!
The argument of a `foreign` attribute: which table references which, and through what column.
One of its two sides is the declared table itself. The side that references lists one column,
and the referenced side lists none, for it is joined through its primary key.
-/

namespace NestedSelect.Declaration

open Reader

/-- The table on one side of an arrow. -/
inductive SideTable where
  /-- The declared table. -/
  | self
  | other (path : Path)
deriving DecidableEq, Repr

/-- One side of an arrow: a table and the columns listed for it. -/
structure Side where
  table : SideTable
  columns : List String
deriving DecidableEq, Repr

/-- Both sides of an arrow. -/
structure Arrow where
  first : Side
  second : Side
deriving DecidableEq, Repr

/-- A foreign key between the declared table and another one. -/
structure ForeignKey where
  other : Path
  column : String
  /-- The other table references the declared one. -/
  referencesSelf : Bool
deriving DecidableEq, Repr

/-- Column names with commas between them, in parentheses. -/
def columnNames : Reader (List String) := group .parenthesis (listed identifier)

/-- The table at the start of a side. -/
def sideTable : Reader SideTable := do
  if ← wordIf "Self" then return .self else return .other (← withGrammar Grammar.path)

/-- One side of an arrow. Without parentheses no column is listed. -/
def side : Reader Side := do
  let table ← sideTable
  let hasColumns ← sees (nextGroup .parenthesis)
  return ⟨table, ← if hasColumns then columnNames else pure []⟩

/-- Two sides with an arrow between them. -/
def arrow : Reader Arrow := do
  let first ← side
  marks "=>"
  return ⟨first, ← side⟩

/-- The foreign key that an arrow describes. -/
def Arrow.foreignKey (arrow : Arrow) : Except Fault ForeignKey :=
  if !arrow.second.columns.isEmpty then .error .referencedColumnsGiven
  else
    match arrow.first.table, arrow.second.table with
    | .self, .self => .error .selfReferencesSelf
    | .other _, .other _ => .error .selfMissing
    | .self, .other path =>
      match arrow.first.columns with
      | [column] => .ok ⟨path, column, false⟩
      | _ => .error .foreignKeyCount
    | .other path, .self =>
      match arrow.first.columns with
      | [column] => .ok ⟨path, column, true⟩
      | _ => .error .foreignKeyCount

/-- The foreign key in the argument of an attribute. What is wrong with an arrow as a whole is
reported where it starts.
-/
def foreignArgument : Reader ForeignKey :=
  group .parenthesis do
    whole do return (← arrow).foreignKey

/-- The foreign key that the tokens behind the name of an attribute describe. -/
def foreignKey (tokens : List Token) : Except Diagnostic ForeignKey :=
  readAll foreignArgument tokens

end NestedSelect.Declaration
