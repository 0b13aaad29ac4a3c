import NestedSelect.Value.Basic
/-!
Caller-supplied sources. A provider is given the condition that ties a relation to its parent,
which is empty where there is none, and answers with SQL text and its arguments, or a reason why
it has no answer.
-/

namespace NestedSelect

/-- SQL text whose placeholders count its own arguments from one. -/
structure Subquery where
  sql : String
  arguments : List Value
deriving DecidableEq, Repr

/-- The answer to each condition. -/
abbrev Provider := String → Except String Subquery

end NestedSelect
