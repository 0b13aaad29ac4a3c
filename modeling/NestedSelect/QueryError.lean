/-!
The ways in which a select cannot be rendered, and what is said about each of them.
-/

namespace NestedSelect

/-- Why a schema cannot be read as a table. -/
inductive SchemaFault where
  | embeddingCycle
  | notATable
deriving DecidableEq, Repr

/-- What is said about a fault of a schema. -/
def SchemaFault.message : SchemaFault → String
  | .embeddingCycle => "embedding cycle"
  | .notATable => "not a table"

/-- Why a select cannot be rendered. -/
inductive QueryError where
  /-- The schema called `name` has a fault of its own. -/
  | schema (name : String) (fault : SchemaFault)
  /-- A join path names a member that the schema called `owner` does not have. -/
  | unknownJoinField (path field owner : String)
  /-- A join path names a column. -/
  | notARelation (path field owner : String)
  /-- Joining at `path` needs a primary key that `table` does not have. -/
  | missingPrimaryKey (path table : String)
  /-- The subquery provider of the relation at `path` failed. -/
  | subqueryFailed (path cause : String)
  /-- The number of a placeholder cannot be shifted. -/
  | malformedPlaceholder (digits : String)
deriving DecidableEq, Repr

/-- What is said about an error. -/
def QueryError.message : QueryError → String
  | .schema name fault => "Schema error in `" ++ name ++ "`: " ++ fault.message
  | .unknownJoinField path field owner =>
    "Unknown join field `" ++ field ++ "` on `" ++ owner ++ "` (path `" ++ path ++ "`)"
  | .notARelation path field owner =>
    "Field `" ++ field ++ "` on `" ++ owner ++ "` is not a relation (path `" ++ path ++ "`)"
  | .missingPrimaryKey path table =>
    "Joining `" ++ path ++ "` requires a primary key on `" ++ table ++ "`"
  | .subqueryFailed path cause => "Subquery for `" ++ path ++ "` failed: " ++ cause
  | .malformedPlaceholder digits => "Malformed placeholder `$" ++ digits ++ "`"

end NestedSelect
