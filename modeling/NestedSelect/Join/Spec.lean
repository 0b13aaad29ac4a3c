import NestedSelect.Subquery
/-!
What is asked of one join.
-/

namespace NestedSelect

/-- Which rows a join keeps where the other side has no match. -/
inductive JoinType where
  | left
  | right
  | inner
  | fullOuter
deriving DecidableEq, Repr

/-- The SQL keyword of a join type. -/
def JoinType.sql : JoinType → String
  | .left => "left join"
  | .right => "right join"
  | .inner => "inner join"
  | .fullOuter => "full outer join"

/-- How one relation is joined, where its rows come from and how they are sorted. -/
structure JoinSpec where
  joinType : JoinType := .left
  /-- The source of the rows, in place of a scan of the table. -/
  subquery : Option Provider := none
  /-- A sort expression that goes before the row order. It is copied verbatim. -/
  orderBy : Option String := none

end NestedSelect
