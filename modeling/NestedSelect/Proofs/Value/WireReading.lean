import Mathlib.Algebra.Group.Nat.Even
import Mathlib.Data.List.Induction
import NestedSelect.Value.Wire
/-!
Parameters read back as values. The type of a parameter and its bytes decide which value was sent,
down to the last bit of a number, so no two argument lists are bound to the same parameters. An
absent text is null and nothing else is.
-/

namespace NestedSelect.Wire

-----------------------------------------------------------------------------------------
-- Words
-----------------------------------------------------------------------------------------

/-- The number that bytes write, the most significant one first. -/
def number (bytes : List UInt8) : Nat :=
  bytes.foldl (fun high byte => 256 * high + byte.toNat) 0

/-- The word that eight bytes write, the most significant one first. -/
def word? (bytes : List UInt8) : Option UInt64 :=
  if bytes.length = 8 then some (UInt64.ofNat (number bytes)) else none

theorem number_append_singleton (front : List UInt8) (last : UInt8)
    : number (front ++ [last]) = 256 * number front + last.toNat := by
  simp [number]

theorem number_lt (bytes : List UInt8) : number bytes < 256 ^ bytes.length := by
  induction bytes using List.reverseRecOn with
  | nil => simp [number]
  | append_singleton front last ih =>
      have small := last.toNat_lt
      rw [number_append_singleton, List.length_append, List.length_singleton, Nat.pow_succ]
      omega

/-- Lists of one length that write the same number are equal. By induction from the least
significant byte on, which is the remainder of the number.
-/
theorem eq_of_number_eq {left right : List UInt8} (lengths : left.length = right.length)
    (same : number left = number right)
    : left = right := by
  induction left using List.reverseRecOn generalizing right with
  | nil => exact (List.length_eq_zero_iff.mp lengths.symm).symm
  | append_singleton front last ih =>
      cases right using List.reverseRecOn with
      | nil => simp at lengths
      | append_singleton others final =>
          have small := last.toNat_lt
          have otherSmall := final.toNat_lt
          rw [number_append_singleton, number_append_singleton] at same
          have bytes : last = final := UInt8.toNat_inj.mp (by omega)
          rw [ih (by simpa using lengths) (by omega), bytes]

theorem length_bigEndian (word : UInt64) : (bigEndian word).length = 8 := rfl

/-- The bytes of a word write its number, because each of them is what remains of it when all that
is above has been taken.
-/
theorem number_bigEndian (word : UInt64) : number (bigEndian word) = word.toNat := by
  have above : 256 * 0 = 256 * (word.toNat / 2 ^ (56 + 8)) := by
    rw [Nat.div_eq_of_lt word.toNat_lt]
  have join (shift : UInt64) (below : Nat) (same : shift.toNat % 64 = below)
      : 256 * (word.toNat / 2 ^ (below + 8)) + (word >>> shift).toUInt8.toNat
          = word.toNat / 2 ^ below := by
    rw [UInt64.toNat_toUInt8, UInt64.toNat_shiftRight, same, Nat.shiftRight_eq_div_pow,
      Nat.pow_add, ← Nat.div_div_eq_div_mul]
    exact Nat.div_add_mod _ _
  simp only [number, bigEndian, List.map_cons, List.map_nil, List.foldl_cons, List.foldl_nil]
  rw [above, join 56 56 rfl, join 48 48 rfl, join 40 40 rfl, join 32 32 rfl, join 24 24 rfl,
    join 16 16 rfl, join 8 8 rfl, join 0 0 rfl, Nat.pow_zero, Nat.div_one]

/-- Bytes are read as a word exactly if they are the bytes of the word. -/
theorem word?_eq_some_iff (bytes : List UInt8) (word : UInt64)
    : word? bytes = some word ↔ bytes = bigEndian word := by
  constructor
  · intro read
    obtain ⟨eight, same⟩ := Option.ite_none_right_eq_some.mp read
    have bound := number_lt bytes
    rw [eight] at bound
    refine eq_of_number_eq eight ?_
    rw [number_bigEndian, ← Option.some.inj same]
    exact (UInt64.toNat_ofNat_of_lt bound).symm
  · rintro rfl
    rw [word?, if_pos (length_bigEndian word), number_bigEndian, UInt64.ofNat_toNat]

-----------------------------------------------------------------------------------------
-- Texts
-----------------------------------------------------------------------------------------

/-- The bytes are listed from the index on, behind those that are held in reverse. -/
theorem toList_loop (bytes : ByteArray) (index : Nat) (held : List UInt8)
    : ByteArray.toList.loop bytes index held = held.reverse ++ bytes.data.toList.drop index := by
  induction index, held using ByteArray.toList.loop.induct bytes with
  | case1 index held inside ih =>
      have within : index < bytes.data.toList.length := inside
      rw [ByteArray.toList.loop, if_pos inside, ih, List.drop_eq_getElem_cons within]
      have byte : bytes.get! index = bytes.data.toList[index] := by
        rw [Array.getElem_toList]
        exact getElem!_pos bytes.data index inside
      simp [byte]
  | case2 index held outside =>
      have beyond : bytes.data.toList.length ≤ index := Nat.le_of_not_lt outside
      rw [ByteArray.toList.loop, if_neg outside, List.drop_eq_nil_of_le beyond, List.append_nil]

theorem toByteArray_toList (bytes : ByteArray) : bytes.toList.toByteArray = bytes := by
  apply ByteArray.ext
  rw [List.data_toByteArray, ByteArray.toList, toList_loop]
  simp

theorem toList_toByteArray (bytes : List UInt8) : bytes.toByteArray.toList = bytes := by
  rw [← List.toByteArray_inj, toByteArray_toList]

/-- Bytes are read as a text exactly if they are its encoding. -/
theorem fromUTF8?_eq_some_iff (bytes : List UInt8) (content : String)
    : String.fromUTF8? bytes.toByteArray = some content ↔ bytes = content.toUTF8.toList := by
  constructor
  · intro read
    obtain ⟨valid, same⟩ := Option.dite_none_right_eq_some.mp read
    rw [← Option.some.inj same]
    exact (toList_toByteArray bytes).symm
  · rintro rfl
    rw [toByteArray_toList, String.fromUTF8?]
    exact dif_pos content.isValidUTF8

-----------------------------------------------------------------------------------------
-- Values
-----------------------------------------------------------------------------------------

/-- The truth value that one byte writes. -/
def flag? (bytes : List UInt8) : Option Bool :=
  if bytes = [1] then some true
  else if bytes = [0] then some false
  else none

/-- The value that a parameter is read back as, unless no value is sent like that. -/
def value? : Parameter → Option Value
  | ⟨.text, none⟩ => some .null
  | ⟨_, none⟩ => none
  | ⟨.text, some bytes⟩ => (String.fromUTF8? bytes.toByteArray).map .text
  | ⟨.int8, some bytes⟩ => (word? bytes).map fun word => .int word.toInt64
  | ⟨.float8, some bytes⟩ => (word? bytes).map .float
  | ⟨.bool, some bytes⟩ => (flag? bytes).map .bool
  | ⟨.bytea, some bytes⟩ => some (.bytes bytes)

theorem flag?_eq_some_iff (bytes : List UInt8) (flag : Bool)
    : flag? bytes = some flag ↔ bytes = [if flag then 1 else 0] := by
  unfold flag?
  by_cases one : bytes = [1]
  · cases flag <;> simp [one]
  · by_cases zero : bytes = [0]
    · cases flag <;> simp [zero]
    · cases flag <;> simp [one, zero]

/-- Bytes are read as a whole number exactly if they are those of its word. -/
theorem exists_word_toInt64_iff (bytes : List UInt8) (number : Int64)
    : (∃ word, word? bytes = some word ∧ word.toInt64 = number)
        ↔ bytes = bigEndian number.toUInt64 := by
  constructor
  · rintro ⟨word, read, rfl⟩
    rw [UInt64.toUInt64_toInt64]
    exact (word?_eq_some_iff bytes word).mp read
  · intro written
    exact ⟨number.toUInt64, (word?_eq_some_iff _ _).mpr written, number.toInt64_toUInt64⟩

/-- What a value is bound as, with the encoding of its type spelled out. -/
theorem parameter_eq (value : Value)
    : parameter value
        = match value with
          | .text content => ⟨.text, some content.toUTF8.toList⟩
          | .int number => ⟨.int8, some (bigEndian number.toUInt64)⟩
          | .float bits => ⟨.float8, some (bigEndian bits)⟩
          | .bool flag => ⟨.bool, some [if flag then 1 else 0]⟩
          | .bytes content => ⟨.bytea, some content⟩
          | .null => ⟨.text, none⟩ := by
  cases value <;> rfl

/-- A parameter is read back as a value exactly if it is what is sent for it. -/
theorem value?_eq_some_iff (sent : Parameter) (value : Value)
    : value? sent = some value ↔ sent = parameter value := by
  obtain ⟨type, bytes⟩ := sent
  cases bytes with
  | none => cases type <;> cases value <;> simp [value?, parameter_eq]
  | some bytes =>
      cases type with
      | text => cases value <;> simp [value?, parameter_eq, fromUTF8?_eq_some_iff]
      | int8 => cases value <;> simp [value?, parameter_eq, exists_word_toInt64_iff]
      | float8 => cases value <;> simp [value?, parameter_eq, word?_eq_some_iff]
      | bool => cases value <;> simp [value?, parameter_eq, flag?_eq_some_iff]
      | bytea => cases value <;> simp [value?, parameter_eq]

-----------------------------------------------------------------------------------------
-- Argument lists
-----------------------------------------------------------------------------------------

/-- The arguments that parameters are read back as, unless one of them is read as none. -/
def values? (sent : List Parameter) : Option (List Value) :=
  sent.mapM value?

/-- Parameters are read back as arguments exactly if they are what these are bound to. By induction
over the parameters, each of which stands for one argument.
-/
theorem values?_eq_some_iff (sent : List Parameter) (arguments : List Value)
    : values? sent = some arguments ↔ sent = bind arguments := by
  unfold values?
  induction sent generalizing arguments with
  | nil => cases arguments <;> simp [bind]
  | cons first rest ih =>
      rw [List.mapM_cons]
      simp only [Option.bind_eq_bind, Option.bind_eq_some_iff, value?_eq_some_iff, ih]
      cases arguments with
      | nil => simp [bind]
      | cons value others => simp [bind]

/-- Binding sends one parameter for each argument, in order, and each of them is read back as its
own argument. Reading accepts nothing but what is bound, so different arguments are bound to
different parameters. Null is the only value that is sent without bytes: the empty text has an
empty list of them.
-/
theorem bind_loses_nothing (arguments : List Value)
    : (bind arguments).length = arguments.length
      ∧ (∀ index : Nat, (bind arguments)[index]?.bind value? = arguments[index]?)
      ∧ (∀ sent, values? sent = some arguments ↔ sent = bind arguments)
      ∧ (∀ others, bind others = bind arguments ↔ others = arguments)
      ∧ ∀ value, (parameter value).bytes = none ↔ value = .null := by
  have readBack := (values?_eq_some_iff (bind arguments) arguments).mpr rfl
  refine ⟨List.length_map _, ?each, fun sent => values?_eq_some_iff sent arguments, ?distinct,
    ?null⟩
  case each =>
    intro index
    rw [bind, List.getElem?_map]
    cases arguments[index]? with
    | none => rfl
    | some value => exact (value?_eq_some_iff _ _).mpr rfl
  case distinct =>
    intro others
    constructor
    · intro same
      have otherRead := (values?_eq_some_iff (bind others) others).mpr rfl
      rw [same, readBack] at otherRead
      exact (Option.some.inj otherRead).symm
    · rintro rfl
      rfl
  case null =>
    intro value
    cases value <;> simp [parameter_eq]

/-- The least number is sent as a lone sign bit. -/
example
    : values? [⟨.int8, some [128, 0, 0, 0, 0, 0, 0, 0]⟩, ⟨.text, none⟩, ⟨.text, some []⟩]
        = some [.int Int64.minValue, .null, .text ""] :=
  rfl

end NestedSelect.Wire
