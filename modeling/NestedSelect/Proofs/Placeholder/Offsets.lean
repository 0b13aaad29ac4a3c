import NestedSelect.Proofs.Outcome
import NestedSelect.Proofs.Placeholder.PlaceholderRuns
import NestedSelect.Proofs.Placeholder.RepeatedRenumbering
/-!
Offsets of renumbered texts. Offsets that are applied one after another add up, and the offset zero
rewrites the numbers of placeholders as plain decimals. A text that it leaves alone is one whose
placeholders are plain decimals already.
-/

namespace NestedSelect.Placeholder

-----------------------------------------------------------------------------------------
-- Offsets in a row
-----------------------------------------------------------------------------------------

/-- What fails to be renumbered fails with any larger offset. -/
theorem exists_renumber_of_add {text : String} {offset further : Nat}
    (renumbered : ∃ output, renumber text (offset + further) = .ok output)
    : ∃ output, renumber text offset = .ok output := by
  rw [exists_renumber_iff] at renumbered ⊢
  intro digits member
  have bound := renumbered digits member
  omega

/-- Renumbering by one offset and then by another succeeds exactly if renumbering by both together
does, and then with the same text. In particular no text that cannot be renumbered by the first
offset can be renumbered by both together.
-/
theorem renumber_twice (text : String) (offset further : Nat)
    : (renumber text offset >>= fun shifted => renumber shifted further).toOption
        = (renumber text (offset + further)).toOption := by
  cases first : renumber text offset with
  | ok shifted =>
      change (renumber shifted further).toOption = _
      rw [renumber_renumbered first, toOption_mapError]
  | error digits =>
      change none = _
      cases both : renumber text (offset + further) with
      | error reported => rfl
      | ok output =>
          obtain ⟨shifted, renumbered⟩ := exists_renumber_of_add ⟨output, both⟩
          rw [first] at renumbered
          contradiction

-----------------------------------------------------------------------------------------
-- Plain decimals
-----------------------------------------------------------------------------------------

/-- Digits that do not start with a zero, but for zero itself. -/
def Canonical (digits : List Char) : Prop :=
  digits.head? = some '0' → digits = ['0']

theorem digitChar_digit {d : Char} (digit : d.isDigit = true)
    : d.toNat - '0'.toNat < 10 ∧ Nat.digitChar (d.toNat - '0'.toNat) = d := by
  obtain ⟨low, high⟩ := Char.isDigit_iff_toNat.mp digit
  have zero : '0'.toNat = 48 := rfl
  have nine : '9'.toNat = 57 := rfl
  have small : d.toNat - '0'.toNat < 10 := by omega
  refine ⟨small, Char.toNat_inj.mp ?_⟩
  rw [Nat.toNat_digitChar_of_lt_ten small]
  omega

theorem head?_toDigits_ne_zero {n : Nat} (positive : 0 < n)
    : (Nat.toDigits 10 n).head? ≠ some '0' := by
  induction n using Nat.strong_induction_on with
  | _ n ih =>
      by_cases small : n < 10
      · rw [Nat.toDigits_of_lt_base small]
        intro zero
        have code := congrArg Char.toNat (Option.some.inj zero)
        rw [Nat.toNat_digitChar_of_lt_ten small] at code
        simp at code
        omega
      · rw [Nat.toDigits_of_base_le (by omega) (by omega),
          List.head?_append_of_ne_nil _ Nat.toDigits_ne_nil]
        exact ih (n / 10) (by omega) (by omega)

/-- Digits that are read behind a number that is not zero are written behind it. By induction over
the digits.
-/
theorem toDigits_foldl {n : Nat} (positive : 0 < n) (digits : List Char)
    (decimal : ∀ d ∈ digits, d.isDigit = true)
    : Nat.toDigits 10 (digits.foldl (fun n d => 10 * n + (d.toNat - '0'.toNat)) n)
        = Nat.toDigits 10 n ++ digits := by
  induction digits generalizing n with
  | nil => simp
  | cons d rest ih =>
      obtain ⟨small, written⟩ := digitChar_digit (decimal d (by simp))
      rw [List.foldl_cons, ih (by omega) fun other member => decimal other (by simp [member]),
        ← Nat.toDigits_append_toDigits (by omega) positive small, Nat.toDigits_of_lt_base small,
        written, List.append_assoc, List.singleton_append]

/-- Digits are the decimal of the number that they denote exactly if they are canonical. -/
theorem toDigits_number_eq_iff {digits : List Char} (nonempty : digits ≠ [])
    (decimal : ∀ d ∈ digits, d.isDigit = true)
    : Nat.toDigits 10 (number digits) = digits ↔ Canonical digits := by
  constructor
  · intro written zero
    by_cases none : number digits = 0
    · rw [← written, none, Nat.toDigits_zero]
    · rw [← written] at zero
      exact absurd zero (head?_toDigits_ne_zero (Nat.pos_of_ne_zero none))
  · intro canonical
    cases digits with
    | nil => contradiction
    | cons d rest =>
        by_cases zero : d = '0'
        · rw [canonical (congrArg some zero)]
          rfl
        · obtain ⟨small, written⟩ := digitChar_digit (decimal d (by simp))
          have positive : 0 < 10 * 0 + (d.toNat - '0'.toNat) := by
            rw [Nat.mul_zero, Nat.zero_add]
            refine Nat.pos_of_ne_zero fun none => zero ?_
            rw [← written, none]
            rfl
          rw [number, List.foldl_cons, toDigits_foldl positive _ fun other member =>
            decimal other (by simp [member]), Nat.mul_zero, Nat.zero_add,
            Nat.toDigits_of_lt_base small, written, List.singleton_append]

theorem mem_runs_scan_iff {text digits : List Char}
    : digits ∈ runs (scan text) ↔ ∃ front back, Occurs text front digits back := by
  rw [mem_runs]
  constructor
  · intro member
    obtain ⟨leading, trailing, split⟩ := List.append_of_mem member
    exact ⟨_, _, occurs_of_scan split⟩
  · rintro ⟨front, back, occurs⟩
    obtain ⟨leading, trailing, split, _⟩ := scan_of_occurs occurs
    simp [split]

/-- Moving leaves pieces alone exactly if it leaves every run alone. -/
theorem map_moved_eq_self_iff (offset : Nat) (pieces : List Piece)
    : pieces.map (Piece.moved offset) = pieces
      ↔ ∀ digits ∈ runs pieces, Nat.toDigits 10 (number digits + offset) = digits := by
  induction pieces with
  | nil => simp
  | cons piece rest ih =>
      cases piece with
      | plain c => simpa [Piece.moved] using ih
      | run digits => simp [Piece.moved, ih]

/-- The offset zero leaves a text alone exactly if it leaves every run alone. Where one run is
changed no other change can make up for it, because the output is cut like the text.
-/
theorem renumber_zero_eq_self_iff (text : String)
    : renumber text 0 = .ok text
      ↔ ∀ digits ∈ runs (scan text.toList),
          Nat.toDigits 10 (number digits) = digits ∧ number digits < 2 ^ 64 := by
  have alone := map_moved_eq_self_iff 0 (scan text.toList)
  constructor
  · intro same digits member
    have bound := ((renumber_eq_ok_iff _ _ _).mp same).1 digits member
    exact ⟨alone.mp (scan_renumbered same).symm digits member, bound⟩
  · intro plain
    refine (renumber_eq_ok_iff _ _ _).mpr ⟨fun digits member => (plain digits member).2, ?_⟩
    rw [alone.mpr fun digits member => (plain digits member).1, scan_text]

/-- The offset zero leaves a text alone exactly if its placeholders are canonical numbers below
`2 ^ 64`. What it makes of any other text it leaves alone, and that is renumbered like the text by
every offset.
-/
theorem renumber_zero_normalizes (text : String)
    : (renumber text 0 = .ok text
        ↔ ∀ front digits back,
            Occurs text.toList front digits back → Canonical digits ∧ number digits < 2 ^ 64)
      ∧ ∀ normal,
          renumber text 0 = .ok normal
          → renumber normal 0 = .ok normal
            ∧ ∀ offset, (renumber normal offset).toOption = (renumber text offset).toOption := by
  constructor
  · rw [renumber_zero_eq_self_iff]
    constructor
    · intro plain front digits back occurs
      obtain ⟨written, bound⟩ := plain digits (mem_runs_scan_iff.mpr ⟨front, back, occurs⟩)
      exact ⟨(toDigits_number_eq_iff occurs.nonempty occurs.decimal).mp written, bound⟩
    · intro canonical digits member
      obtain ⟨front, back, occurs⟩ := mem_runs_scan_iff.mp member
      obtain ⟨plain, bound⟩ := canonical front digits back occurs
      exact ⟨(toDigits_number_eq_iff occurs.nonempty occurs.decimal).mpr plain, bound⟩
  · intro normal renumbered
    have later (offset : Nat)
        : (renumber normal offset).toOption = (renumber text offset).toOption := by
      rw [renumber_renumbered renumbered, toOption_mapError, Nat.zero_add]
    refine ⟨?_, later⟩
    rw [renumber_renumbered renumbered, mapError_eq_ok_iff, Nat.zero_add, renumbered]

/-- Zeros in front are dropped outside of quotes. -/
example : renumber "$007 and '$08'" 0 = .ok "$7 and '$08'" := rfl

end NestedSelect.Placeholder
