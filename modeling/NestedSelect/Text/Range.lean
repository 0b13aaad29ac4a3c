/-!
Ranges of code points, of which the tables of character properties are made.
-/

namespace NestedSelect

/-- The first and the last code point of a range. -/
abbrev CodePointRange := Nat × Nat

/-- The code point of a character lies in the range. -/
def CodePointRange.contains (range : CodePointRange) (c : Char) : Bool :=
  range.1 ≤ c.toNat && c.toNat ≤ range.2

end NestedSelect
