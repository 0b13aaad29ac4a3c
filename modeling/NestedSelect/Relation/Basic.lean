import NestedSelect.Join.Spec
import NestedSelect.Schema.Basic
/-!
Relation trees: the tables of one statement, each with what is needed to read it and to join its
children to it.
-/

namespace NestedSelect

/-- One use of a table in a statement. -/
structure TableUse where
  /-- The dotted join path, empty for the root. -/
  path : String
  /-- The name under which the statement refers to this use. -/
  aliasName : String
  table : String
  primaryKey : Option String
  spec : JoinSpec
  fields : List Field

/-- The names that tie a child relation to its parent. -/
structure JoinKeys where
  /-- The member of the parent's JSON object that holds the child. -/
  jsonKey : String
  foreignKey : String
  /-- The primary key that the foreign key references: the child's where the parent has one
  child row, the parent's where it has many.
  -/
  referencedKey : String
deriving DecidableEq, Repr

/-- A child together with the keys that join it to its parent. -/
structure Joined (Child : Type) where
  keys : JoinKeys
  relation : Child

/-- A table with the relations joined to it. -/
structure Relation where
  use : TableUse
  /-- The relations with one row for each row of the table. -/
  one : List (Joined Relation)
  /-- The relations with any number of rows for each row of the table. -/
  many : List (Joined Relation)

/-- The column under which the rows of a use are exported as one JSON array. -/
def TableUse.aggregateColumn (use : TableUse) : String :=
  use.aliasName ++ "_json"

end NestedSelect
