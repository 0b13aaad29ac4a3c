import NestedSelect.Value.Basic
/-!
Arguments in the binary format in which PostgreSQL receives them: each parameter has a type and
either bytes or no bytes at all, which is NULL.
-/

namespace NestedSelect.Wire

/-- The types that parameters are declared with. -/
inductive ParameterType where
  | text
  | int8
  | float8
  | bool
  | bytea
deriving DecidableEq, Repr

/-- One parameter of a statement as it is sent. -/
structure Parameter where
  type : ParameterType
  /-- The content, or none for NULL. -/
  bytes : Option (List UInt8)
deriving DecidableEq, Repr

/-- The eight bytes of a word, the most significant one first. -/
def bigEndian (word : UInt64) : List UInt8 :=
  ([56, 48, 40, 32, 24, 16, 8, 0] : List UInt64).map fun shift => (word >>> shift).toUInt8

-----------------------------------------------------------------------------------------
-- Encodings of the driver
-----------------------------------------------------------------------------------------

/-- How the values of a type are encoded: as what a parameter is declared, and in which bytes. -/
class Encode (α : Type) where
  declared : ParameterType
  bytes : α → List UInt8

instance : Encode String := ⟨.text, fun content => content.toUTF8.toList⟩
instance : Encode Int64 := ⟨.int8, fun number => bigEndian number.toUInt64⟩
instance : Encode Bool := ⟨.bool, fun flag => [if flag then 1 else 0]⟩
instance : Encode (List UInt8) := ⟨.bytea, id⟩

/-- A float is encoded by its bits. -/
instance : Encode UInt64 := ⟨.float8, bigEndian⟩

/-- A parameter that has a content. -/
def Parameter.present {α : Type} [Encode α] (content : α) : Parameter :=
  ⟨Encode.declared α, some (Encode.bytes content)⟩

/-- A parameter of a type that has no content. -/
def Parameter.absent (α : Type) [Encode α] : Parameter :=
  ⟨Encode.declared α, none⟩

-----------------------------------------------------------------------------------------
-- Bound values
-----------------------------------------------------------------------------------------

/-- How one value is bound. NULL has no type of its own and is bound as an absent text. -/
def parameter : Value → Parameter
  | .text content => .present content
  | .int number => .present number
  | .float bits => .present bits
  | .bool flag => .present flag
  | .bytes content => .present content
  | .null => .absent String

/-- The parameters of an argument list, in order. -/
def bind (arguments : List Value) : List Parameter :=
  arguments.map parameter

end NestedSelect.Wire
