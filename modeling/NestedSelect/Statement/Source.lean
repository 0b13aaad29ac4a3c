import NestedSelect.Placeholder
import NestedSelect.Relation.Basic
import NestedSelect.Statement.Writing
/-!
The sources of a statement: where the rows of each table use come from. Without a provider it is
a scan of the table that numbers its rows.
-/

namespace NestedSelect

/-- Layout and naming of a rendered statement. -/
structure RenderOptions where
  layout : Layout := .compact
  /-- The column with the row numbers. The rows of a provider need to have it too. -/
  sequenceColumn : String := "seq"
deriving DecidableEq, Repr

/-- How a relation with many rows is tied to its parent. -/
structure Correlation where
  parentAlias : String
  foreignKey : String
  referencedKey : String
deriving DecidableEq, Repr

/-- The condition on the rows that belong to one parent row. -/
def Correlation.condition (correlation : Correlation) (aliasName : String) : Draft :=
  Draft.column aliasName correlation.foreignKey ++ [.text " = "]
    ++ Draft.column correlation.parentAlias correlation.referencedKey

/-- The condition as the text that providers are given, which is empty without a correlation. -/
def Correlation.conditionText (aliasName : String) : Option Correlation → String
  | none => ""
  | some correlation =>
    quoteColumn aliasName correlation.foreignKey ++ " = "
      ++ quoteColumn correlation.parentAlias correlation.referencedKey

namespace TableUse

/-- The table with its rows numbered. A correlated table goes by the alias of its use, so that
the alias of the parent stays visible even where both are uses of the same table.
-/
def scan (options : RenderOptions) (use : TableUse) (correlation : Option Correlation) : Draft :=
  [.text "select *, row_number() over () as ", .identifier options.sequenceColumn,
    .text " from ", .identifier use.table]
    ++ match correlation with
      | none => []
      | some correlation =>
        [.text " as ", .identifier use.aliasName, .text " where "]
          ++ correlation.condition use.aliasName

/-- The answer of a provider. Its placeholders count its own arguments from one, so they move up
by the number of arguments before them.
-/
def provided (use : TableUse) (provider : Provider) (condition : String) : Writing := fun offset =>
  match provider condition with
  | .error cause => .error (.subqueryFailed use.path cause)
  | .ok subquery =>
    match Placeholder.renumber subquery.sql offset with
    | .error digits => .error (.malformedPlaceholder digits)
    | .ok sql => .ok ⟨[.text sql], subquery.arguments⟩

/-- The rows of a use. -/
def rows (options : RenderOptions) (use : TableUse) (correlation : Option Correlation) : Writing :=
  match use.spec.subquery with
  | none => .parts (use.scan options correlation)
  | some provider => use.provided provider (Correlation.conditionText use.aliasName correlation)

/-- The rows of a use as an item of a from clause. -/
def source (options : RenderOptions) (use : TableUse) (correlation : Option Correlation)
    : Writing :=
  .parts [.text "("] ++ use.rows options correlation
    ++ .parts [.text ") as ", .identifier use.aliasName]

end TableUse

end NestedSelect
