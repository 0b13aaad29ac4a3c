/-!
Widening of binary32 numbers to binary64, on their bits. Every binary32 number is a binary64
number, so the value never changes: the exponent is rebased, a subnormal is normalized, and the
payload of a NaN moves to the upper end of the wider fraction and becomes quiet.
-/

namespace NestedSelect.SinglePrecision

/-- The bits of a binary32 number that lie below the sign: eight of exponent, 23 of fraction. -/
def fractionWidth : Nat := 23

/-- By how much the fraction of a binary64 number is wider. -/
def widening : Nat := 52 - fractionWidth

/-- The difference of the two exponent biases. -/
def rebias : Nat := 1023 - 127

/-- Exponent and fraction fields in binary64 of the positive number that binary32 writes with
the fields `exponent` and `fraction`.
-/
def widenFields (exponent fraction : Nat) : Nat × Nat :=
  if exponent = 255 then
    if fraction = 0 then (2047, 0) else (2047, (fraction <<< widening) ||| (1 <<< 51))
  else if exponent = 0 then
    if fraction = 0 then (0, 0)
    else
      let leading := fraction.log2
      (rebias + 1 + leading - fractionWidth, (fraction - (1 <<< leading)) <<< (52 - leading))
  else (exponent + rebias, fraction <<< widening)

/-- The binary64 bits of the number with binary32 bits `bits`. -/
def widen (bits : UInt32) : UInt64 :=
  let sign := bits.toNat >>> 31
  let exponent := (bits.toNat >>> fractionWidth) % 256
  let fraction := bits.toNat % (1 <<< fractionWidth)
  let fields := widenFields exponent fraction
  ((sign <<< 63) + (fields.1 <<< 52) + fields.2).toUInt64

end NestedSelect.SinglePrecision
