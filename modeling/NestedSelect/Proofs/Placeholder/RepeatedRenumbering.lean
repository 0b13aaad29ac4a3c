import NestedSelect.Proofs.Placeholder.PlaceholderRuns
/-!
Texts that are renumbered once more. The second offset moves on from where the first one has led,
and the quotes of a text are the same before and after.
-/

namespace NestedSelect.Placeholder

-----------------------------------------------------------------------------------------
-- Two offsets
-----------------------------------------------------------------------------------------

/-- The digits that a moved run is reported by. -/
def movedDigits (offset : Nat) (digits : List Char) : List Char :=
  Nat.toDigits 10 (number digits + offset)

/-- A moved piece moves on from where it is. -/
theorem Piece.shift_moved (offset further : Nat) (piece : Piece)
    : (piece.moved offset).shift further
        = (piece.shift (offset + further)).mapError (movedDigits offset) := by
  cases piece with
  | plain c => rfl
  | run digits =>
      rw [moved, shift, shift, number_toDigits, Nat.add_assoc]
      split <;> rfl

theorem shiftAll_moved (offset further : Nat) (pieces : List Piece)
    : shiftAll further (pieces.map (Piece.moved offset))
        = (shiftAll (offset + further) pieces).mapError (movedDigits offset) := by
  induction pieces with
  | nil => rfl
  | cons piece rest ih =>
      rw [List.map_cons, shiftAll, shiftAll, Piece.shift_moved, ih]
      cases piece.shift (offset + further) with
      | error digits => rfl
      | ok front => cases shiftAll (offset + further) rest <;> rfl

/-- A renumbered text is renumbered by a further offset like the original by both together. Only the
digits that a failure is reported by have been moved.
-/
theorem renumber_renumbered {text shifted : String} {offset : Nat}
    (renumbered : renumber text offset = .ok shifted) (further : Nat)
    : renumber shifted further
        = (renumber text (offset + further)).mapError fun digits =>
            String.ofList (movedDigits offset digits.toList) := by
  rw [renumber, renumber, scan_renumbered renumbered, shiftAll_moved]
  cases shiftAll (offset + further) (scan text.toList) with
  | error digits => simp [Except.mapError]
  | ok moved => rfl

-----------------------------------------------------------------------------------------
-- Quotes of renumbered texts
-----------------------------------------------------------------------------------------

namespace Quotes

theorem readAll_digits (quotes : Quotes) {digits : List Char}
    (all : ∀ d ∈ digits, d.isDigit = true)
    : quotes.readAll digits = quotes := by
  induction digits with
  | nil => rfl
  | cons d rest ih =>
      rw [readAll_cons, quotes.read_digit (all d (by simp))]
      exact ih fun other member => all other (by simp [member])

/-- Moving pieces leaves their quotes as they are, because digits are no quotes. -/
theorem readAll_moved (quotes : Quotes) (offset : Nat) (pieces : List Piece)
    (runs : ∀ digits, .run digits ∈ pieces → ∀ d ∈ digits, d.isDigit = true)
    : quotes.readAll ((pieces.map (Piece.moved offset)).flatMap Piece.text)
        = quotes.readAll (pieces.flatMap Piece.text) := by
  induction pieces generalizing quotes with
  | nil => rfl
  | cons piece rest ih =>
      have later := fun quotes : Quotes =>
        ih quotes fun digits member => runs digits (List.mem_cons_of_mem _ member)
      rw [List.map_cons, List.flatMap_cons, List.flatMap_cons, readAll_append, readAll_append,
        later]
      cases piece with
      | plain c => rfl
      | run digits =>
          have written : ∀ d ∈ Nat.toDigits 10 (number digits + offset), d.isDigit = true :=
            fun d member => Nat.isDigit_of_mem_toDigits (by omega) (by omega) member
          rw [Piece.moved, Piece.text, Piece.text, quotes.readAll_digits written,
            quotes.readAll_digits (runs digits (by simp))]

/-- Renumbering a text leaves its quotes as they are. -/
theorem readAll_renumbered (quotes : Quotes) {text shifted : String} {offset : Nat}
    (renumbered : renumber text offset = .ok shifted)
    : quotes.readAll shifted.toList = quotes.readAll text.toList := by
  have runs := scanFrom_run_digits {} none text.toList (by simp)
  have original := scan_text text.toList
  rw [shiftAll_eq_ok (renumber_eq_ok renumbered),
    quotes.readAll_moved offset (scan text.toList) fun digits member => (runs digits member).2,
    original]

end Quotes

end NestedSelect.Placeholder
