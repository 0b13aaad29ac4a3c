import NestedSelect.Proofs.Placeholder.Scanning
import NestedSelect.Proofs.Text.Lexing
/-!
The tokens of renumbered text. Renumbering replaces digits by digits, so a renumbered text has the
tokens of the text it comes from, with nothing but the digits of placeholders changed.
-/

namespace NestedSelect.Placeholder

open Lexing

/-- The digit runs that scanning finds are made of digits, of at least one each. By induction over
the text, for the digits that are held of an open run as well.
-/
theorem scanFrom_run_digits (quotes : Quotes) (open? : Option (List Char)) (text : List Char)
    (held : ∀ digits ∈ open?, ∀ d ∈ digits, d.isDigit = true)
    : ∀ digits,
        .run digits ∈ scanFrom quotes open? text
        → digits ≠ [] ∧ ∀ d ∈ digits, d.isDigit = true := by
  have closed (open? : Option (List Char))
      (held : ∀ digits ∈ open?, ∀ d ∈ digits, d.isDigit = true)
      : ∀ digits,
          .run digits ∈ closeRun open? → digits ≠ [] ∧ ∀ d ∈ digits, d.isDigit = true := by
    intro digits member
    rcases open? with _ | (_ | ⟨d, rest⟩)
    · simp [closeRun] at member
    · simp [closeRun] at member
    · obtain rfl : digits = d :: rest := by simpa [closeRun] using member
      exact ⟨by simp, held _ rfl⟩
  induction text generalizing quotes open? with
  | nil => exact closed open? held
  | cons c rest ih =>
      intro digits member
      rcases taken_or_ends open? c with ⟨found, rfl, digit⟩ | ends
      · rw [scanFrom_digit _ _ _ digit] at member
        refine ih quotes (some (found ++ [c])) ?_ digits member
        intro longer same d inside
        obtain rfl := Option.some.inj same
        rcases List.mem_append.mp inside with before | last
        · exact held found rfl d before
        · rwa [List.mem_singleton.mp last]
      · rw [scanFrom_plain _ _ _ _ ends, List.mem_append, List.mem_cons] at member
        rcases member with front | plain | behind
        · exact closed open? held digits front
        · contradiction
        · refine ih (quotes.read c) (opened quotes c) ?_ digits behind
          intro fresh same d inside
          obtain rfl := opened_eq_some same
          contradiction

/-- The quotes that a piece belongs to: digit runs belong to none. -/
def Piece.quotes : Piece → Option Kind
  | .plain c => quotesOf c
  | .run _ => none

theorem quotesOf_digit {d : Char} (digit : d.isDigit = true) : quotesOf d = none := by
  have single : d ≠ '\'' := by rintro rfl; contradiction
  have double : d ≠ '"' := by rintro rfl; contradiction
  simp [quotesOf, single, double]

/-- A plain character that is spelled as it is shows the quotes that it belongs to. -/
theorem spells_plain {letters : Piece → List Char} {c : Char}
    (copied : letters (.plain c) = [c])
    : Spells Piece.quotes letters (.plain c) := by
  constructor
  · intro kind found
    rw [copied, (quotesOf_eq_some_iff c kind).mp found]
  · intro unquoted
    have noQuote : quotesOf c = none := unquoted
    simp [copied, noQuote]

theorem spells_run {letters : Piece → List Char} {digits : List Char}
    (nonempty : letters (.run digits) ≠ [])
    (all : ∀ d ∈ letters (.run digits), d.isDigit = true)
    : Spells Piece.quotes letters (.run digits) where
  mark := by simp [Piece.quotes]
  plain := fun _ => ⟨nonempty, fun d inside => quotesOf_digit (all d inside)⟩

/-- The pieces of a text are spelled with quote characters only where they are ones. -/
theorem spells_text {text : List Char} {piece : Piece} (member : piece ∈ scan text)
    : Spells Piece.quotes Piece.text piece := by
  cases piece with
  | plain c => exact spells_plain rfl
  | run digits =>
      obtain ⟨nonempty, all⟩ := scanFrom_run_digits {} none text (by simp) digits member
      exact spells_run nonempty all

/-- Moved pieces are spelled with quote characters only where the pieces are ones. -/
theorem spells_moved (offset : Nat) (piece : Piece)
    : Spells Piece.quotes (fun piece => (piece.moved offset).text) piece := by
  cases piece with
  | plain c => exact spells_plain rfl
  | run digits =>
      exact spells_run Nat.toDigits_ne_nil fun d inside =>
        Nat.isDigit_of_mem_toDigits (by omega) (by omega) inside

/-- A complete text and its renumbered form have the same tokens in terms of pieces. They are
spelled with the pieces as they are in the one and with the moved pieces in the other.
-/
theorem lex_renumbered {text shifted : String} {offset : Nat}
    (renumbered : renumber text offset = .ok shifted) (complete : Complete text.toList)
    : ∃ tokens : List (Token Piece),
        lexItems Piece.quotes (scan text.toList) = some tokens
        ∧ lex text.toList = some (tokens.flatMap (Token.spell Piece.text))
        ∧ lex shifted.toList
          = some (tokens.flatMap (Token.spell fun piece => (piece.moved offset).text)) := by
  have original
      : lex ((scan text.toList).flatMap Piece.text)
        = (lexItems Piece.quotes (scan text.toList)).map
          (·.flatMap (Token.spell Piece.text)) :=
    lex_flatMap_letters fun _ => spells_text
  have moved
      : lex ((scan text.toList).flatMap fun piece => (piece.moved offset).text)
        = (lexItems Piece.quotes (scan text.toList)).map
          (·.flatMap (Token.spell fun piece => (piece.moved offset).text)) :=
    lex_flatMap_letters fun piece _ => spells_moved offset piece
  have characters
      : shifted.toList
        = (scan text.toList).flatMap fun piece => (piece.moved offset).text := by
    rw [shiftAll_eq_ok (renumber_eq_ok renumbered), List.flatMap_map]
  rw [scan_text] at original
  rw [← characters] at moved
  cases tokens : lexItems Piece.quotes (scan text.toList) with
  | none =>
      rw [tokens, Option.map_none] at original
      rw [Complete, original] at complete
      contradiction
  | some tokens' =>
      rw [tokens] at original moved
      exact ⟨tokens', rfl, original, moved⟩

end NestedSelect.Placeholder
