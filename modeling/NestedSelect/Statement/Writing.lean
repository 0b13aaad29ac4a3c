import NestedSelect.Draft
import NestedSelect.QueryError
import NestedSelect.Value.Basic
/-!
Stretches of a statement that bring arguments along. How a stretch is written depends on one
number, the count of arguments gathered before it, and stretches are put together in the order
in which they stand in the statement.
-/

namespace NestedSelect

/-- A stretch of a statement with the arguments that it brings along. -/
structure Stretch where
  parts : Draft
  arguments : List Value
deriving DecidableEq, Repr

/-- A stretch for each count of arguments that may come before it. -/
def Writing := Nat → Except QueryError Stretch

namespace Writing

/-- Parts that bring no arguments along. -/
def parts (draft : Draft) : Writing :=
  fun _ => .ok ⟨draft, []⟩

/-- One stretch after another. The first failure is the failure of both. -/
def append (first second : Writing) : Writing := fun offset => do
  let front ← first offset
  let back ← second (offset + front.arguments.length)
  return ⟨front.parts ++ back.parts, front.arguments ++ back.arguments⟩

instance : Append Writing := ⟨append⟩

end Writing

end NestedSelect
