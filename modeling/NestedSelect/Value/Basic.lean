import NestedSelect.Value.SinglePrecision
/-!
Positional argument values. Rendering counts and orders them and never looks inside, so a number
in binary64 is kept as its bits.
-/

namespace NestedSelect

/-- One argument, bound to a placeholder of a statement. -/
inductive Value where
  | text (content : String)
  | int (number : Int64)
  | float (bits : UInt64)
  | bool (flag : Bool)
  | bytes (content : List UInt8)
  | null
deriving DecidableEq, Repr

namespace Value

/-- A number in binary32, widened. -/
def ofSingle (bits : UInt32) : Value :=
  .float (SinglePrecision.widen bits)

/-- An absent value is null. -/
def ofOption : Option Value → Value
  | some value => value
  | none => .null

end Value

end NestedSelect
