import NestedSelect.Proofs.Outcome
import NestedSelect.Proofs.Placeholder.PlaceholderRuns
/-!
Renumbering part by part. A text that ends outside of quotes may be cut off from what follows it,
and both are renumbered on their own. The one thing that can reach across the cut is a placeholder
at the end of the front text, with digits to go on with at the start of the back text.
-/

namespace NestedSelect.Placeholder

/-- The text ends with a `$` outside of quotes and nothing but digits behind it, perhaps none. -/
def EndsOpen (text : List Char) : Prop :=
  ∃ before digits,
    text = before ++ '$' :: digits
    ∧ Even (before.count '\'')
    ∧ Even (before.count '"')
    ∧ ∀ d ∈ digits, d.isDigit = true

-----------------------------------------------------------------------------------------
-- Open runs
-----------------------------------------------------------------------------------------

/-- All of the text goes into an open run exactly if it has nothing but digits. -/
theorem runAfter_digits (quotes : Quotes) (held digits : List Char)
    (all : ∀ d ∈ digits, d.isDigit = true)
    : runAfter quotes (some held) digits = some (held ++ digits) := by
  induction digits generalizing held with
  | nil => simp [runAfter]
  | cons d rest ih =>
      rw [runAfter_digit _ _ _ (all d (by simp)),
        ih _ fun other member => all other (by simp [member])]
      simp

/-- A run that is open behind a text was open before it and took all of it, or was opened by a `$`
outside of quotes and took all that follows there. By induction over the text.
-/
theorem of_runAfter_eq_some {quotes : Quotes} {open? : Option (List Char)}
    {text digits : List Char} (run : runAfter quotes open? text = some digits)
    : (open?.isSome = true ∧ ∀ d ∈ text, d.isDigit = true)
      ∨ ∃ before taken,
          text = before ++ '$' :: taken
          ∧ (quotes.readAll before).outside = true
          ∧ ∀ d ∈ taken, d.isDigit = true := by
  induction text generalizing quotes open? with
  | nil =>
      rw [runAfter] at run
      exact .inl ⟨by simp [run], by simp⟩
  | cons c rest ih =>
      rcases taken_or_ends open? c with ⟨held, rfl, digit⟩ | ends
      · rw [runAfter_digit _ _ _ digit] at run
        rcases ih run with ⟨_, all⟩ | ⟨before, taken, rfl, outside, all⟩
        · exact .inl ⟨rfl, List.forall_mem_cons.mpr ⟨digit, all⟩⟩
        · refine .inr ⟨c :: before, taken, rfl, ?_, all⟩
          rwa [Quotes.readAll_cons, quotes.read_digit digit]
      · rw [runAfter_plain _ _ _ _ ends] at run
        rcases ih run with ⟨opens, all⟩ | ⟨before, taken, rfl, outside, all⟩
        · obtain ⟨rfl, outside⟩ : c = '$' ∧ quotes.outside = true := by
            simpa [opened] using opens
          exact .inr ⟨[], rest, rfl, outside, all⟩
        · exact .inr ⟨c :: before, taken, rfl, outside, all⟩

/-- A run is open behind a text exactly if the text ends open. -/
theorem runAfter_isSome_iff (text : List Char)
    : (runAfter {} none text).isSome = true ↔ EndsOpen text := by
  constructor
  · intro opens
    obtain ⟨digits, run⟩ := Option.isSome_iff_exists.mp opens
    rcases of_runAfter_eq_some run with ⟨never, _⟩ | ⟨before, taken, split, outside, all⟩
    · contradiction
    · obtain ⟨single, double⟩ := (Quotes.outside_readAll_iff before).mp outside
      exact ⟨before, taken, split, single, double, all⟩
  · rintro ⟨before, digits, rfl, single, double, all⟩
    have opens : opened {} '$' = some [] := rfl
    rw [runAfter_append, Quotes.readAll_of_even _ single double,
      runAfter_plain _ _ _ _ (.inr rfl), opens, runAfter_digits _ _ _ all]
    rfl

-----------------------------------------------------------------------------------------
-- Seams outside of quotes
-----------------------------------------------------------------------------------------

/-- A text that ends outside of quotes is renumbered on its own, unless a digit goes on with a
placeholder at its end.
-/
theorem renumber_append {front : String} (outside : Quotes.readAll {} front.toList = {})
    (offset : Nat) {back : String}
    (apart : runAfter {} none front.toList = none ∨ ∀ c ∈ back.toList.head?, c.isDigit = false)
    : renumber (front ++ back) offset
        = (do
          let shiftedFront ← renumber front offset
          let shiftedBack ← renumber back offset
          return shiftedFront ++ shiftedBack) := by
  rw [renumber, String.toList_append, shiftAll_scan_append outside offset apart, renumber, renumber]
  cases shiftAll offset (scan front.toList) with
  | error digits => rfl
  | ok shiftedFront =>
      cases shiftAll offset (scan back.toList) with
      | error digits => rfl
      | ok shiftedBack => exact congrArg Except.ok String.ofList_append

/-- Where a text is cut outside of quotes, and not inside of the digits of a placeholder, both parts
are renumbered on their own. The whole is renumbered exactly if both parts are, and then it is the
one behind the other. Otherwise the first part that fails decides what is reported.
-/
theorem renumber_is_local (front back : String) (offset : Nat)
    (single : Even (front.toList.count '\'')) (double : Even (front.toList.count '"'))
    (apart : ¬(EndsOpen front.toList ∧ ∃ c ∈ back.toList.head?, c.isDigit = true))
    : (∀ output,
          renumber (front ++ back) offset = .ok output
          ↔ ∃ shiftedFront shiftedBack,
              renumber front offset = .ok shiftedFront
              ∧ renumber back offset = .ok shiftedBack
              ∧ output = shiftedFront ++ shiftedBack)
      ∧ ∀ digits,
          renumber (front ++ back) offset = .error digits
          ↔ renumber front offset = .error digits
            ∨ (∃ shiftedFront, renumber front offset = .ok shiftedFront)
              ∧ renumber back offset = .error digits := by
  have outside : Quotes.readAll {} front.toList = {} := Quotes.readAll_of_even _ single double
  have ends
      : runAfter {} none front.toList = none ∨ ∀ c ∈ back.toList.head?, c.isDigit = false := by
    rcases not_and_or.mp apart with closed | plain
    · exact .inl (by simpa [← runAfter_isSome_iff] using closed)
    · exact .inr (by simpa using plain)
  have parts := renumber_append outside offset ends
  constructor
  · intro output
    simp only [parts, bind_eq_ok_iff]
    constructor
    · rintro ⟨shiftedFront, first, shiftedBack, second, both⟩
      exact ⟨shiftedFront, shiftedBack, first, second, (Except.ok.inj both).symm⟩
    · rintro ⟨shiftedFront, shiftedBack, first, second, rfl⟩
      exact ⟨shiftedFront, first, shiftedBack, second, rfl⟩
  · intro digits
    simp only [parts, bind_eq_error_iff]
    constructor
    · rintro (first | ⟨shiftedFront, first, second | ⟨_, _, never⟩⟩)
      · exact .inl first
      · exact .inr ⟨⟨shiftedFront, first⟩, second⟩
      · contradiction
    · rintro (first | ⟨⟨shiftedFront, first⟩, second⟩)
      · exact .inl first
      · exact .inr ⟨shiftedFront, first, .inl second⟩

/-- The front text ends with a placeholder that the back text does not go on with. -/
theorem renumber_is_local_at_dollar
    : renumber ("'$7' $1$" ++ "$2'") 9 = .ok ("'$7' $10$" ++ "$11'")
      ∧ renumber ("$1" ++ "$18446744073709551615") 1 = .error "18446744073709551615" := by
  constructor
  · refine ((renumber_is_local "'$7' $1$" "$2'" 9 (by decide) (by decide) ?_).1 _).mpr
      ⟨_, _, rfl, rfl, rfl⟩
    simp
  · refine ((renumber_is_local "$1" "$18446744073709551615" 1 (by decide) (by decide) ?_).2 _).mpr
      (.inr ⟨⟨_, rfl⟩, rfl⟩)
    simp

/-- The digit at the cut belongs to the placeholder in front of it. -/
example : renumber ("$1" ++ "0") 1 = .ok "$11" ∧ renumber "$1" 1 = .ok "$2" := ⟨rfl, rfl⟩

end NestedSelect.Placeholder
