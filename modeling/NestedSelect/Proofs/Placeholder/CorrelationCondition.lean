import NestedSelect.Proofs.Placeholder.Scanning
import NestedSelect.Statement.Source
/-!
Renumbering around a correlation condition. A provider splices the condition into text of its
own, and the placeholders behind the condition have to move up like those before it. The
condition holds no placeholder itself, but its names may hold a `'`, which counts as a quote for
the scanner although it stands inside of an identifier.
-/

namespace NestedSelect

namespace Quoted

/-- Doubling counts a mark twice and every other character once. -/
theorem count_double (mark c : Char) (text : List Char)
    : (double mark text).count c = if c = mark then 2 * text.count c else text.count c := by
  induction text with
  | nil => simp
  | cons first rest ih =>
      rw [double_cons, List.count_append, ih]
      by_cases isMark : c = mark
      · subst isMark
        by_cases same : first = c
        · simp [same]
          omega
        · simp [same, List.count_cons_of_ne]
      · by_cases same : first = mark
        · have apart : mark ≠ c := Ne.symm isMark
          simp [same, isMark, List.count_cons_of_ne, apart]
        · simp [same, isMark, List.count_cons]
          omega

theorem count_encode (mark c : Char) (text : List Char)
    : (encode mark text).count c
        = if c = mark then 2 * text.count c + 2 else text.count c := by
  by_cases isMark : c = mark
  · subst isMark
    simp [encode, count_double]
  · have apart : mark ≠ c := Ne.symm isMark
    simp [encode, count_double, isMark, List.count_cons_of_ne, apart]

end Quoted

namespace Placeholder

-----------------------------------------------------------------------------------------
-- Texts without placeholders
-----------------------------------------------------------------------------------------

/-- A text that is copied character by character behind `quotes`, and leaves no run open. -/
structure Quiet (quotes : Quotes) (text : List Char) : Prop where
  copied : scanFrom quotes none text = text.map .plain
  closed : runAfter quotes none text = none

theorem Quiet.nil (quotes : Quotes) : Quiet quotes [] := ⟨rfl, rfl⟩

theorem Quiet.cons {quotes : Quotes} {c : Char} {rest : List Char}
    (silent : opened quotes c = none) (behind : Quiet (quotes.read c) rest)
    : Quiet quotes (c :: rest) where
  copied := by
    rw [scanFrom_plain _ _ _ _ (.inl rfl), silent, behind.copied]
    rfl
  closed := by rw [runAfter_plain _ _ _ _ (.inl rfl), silent, behind.closed]

theorem Quiet.append {quotes : Quotes} {front back : List Char} (first : Quiet quotes front)
    (second : Quiet (quotes.readAll front) back)
    : Quiet quotes (front ++ back) where
  copied := by
    rw [scanFrom_append _ _ _ _ (.inl first.closed), first.copied, second.copied,
      List.map_append]
  closed := by rw [runAfter_append, first.closed, second.closed]

theorem Quiet.of_no_dollar (quotes : Quotes) {text : List Char} (absent : '$' ∉ text)
    : Quiet quotes text := by
  induction text generalizing quotes with
  | nil => exact .nil quotes
  | cons c rest ih =>
      rw [List.mem_cons, not_or] at absent
      exact .cons (by simp [opened, Ne.symm absent.1]) (ih _ absent.2)

/-- The mark has been read an odd number of times. -/
def Quotes.isOpen (quotes : Quotes) (mark : Char) : Prop :=
  mark = '\'' ∧ quotes.single = true ∨ mark = '"' ∧ quotes.double = true

/-- Between the marks of a quoted text every character is copied, `$` included. By induction over
the text: a doubled mark leaves the quotes and enters them again at once.
-/
theorem Quiet.double {quotes : Quotes} {mark : Char} (inside : quotes.isOpen mark)
    (text : List Char)
    : Quiet quotes (Quoted.double mark text) := by
  induction text generalizing quotes with
  | nil => exact .nil quotes
  | cons c rest ih =>
      rw [Quoted.double_cons]
      by_cases same : c = mark
      · refine .append (.of_no_dollar _ ?_) (ih ?_)
        · rcases inside with ⟨rfl, _⟩ | ⟨rfl, _⟩ <;> simp [same]
        · rcases inside with ⟨rfl, inside⟩ | ⟨rfl, inside⟩ <;>
            simp [same, Quotes.isOpen, Quotes.read, inside]
      · rw [if_neg same]
        refine .cons ?_ (ih ?_)
        · rcases inside with ⟨_, inside⟩ | ⟨_, inside⟩ <;>
            simp [opened, Quotes.outside, inside]
        · rcases inside with ⟨rfl, inside⟩ | ⟨rfl, inside⟩
          · by_cases double : c = '"' <;> simp [Quotes.isOpen, Quotes.read, same, double, inside]
          · by_cases single : c = '\'' <;> simp [Quotes.isOpen, Quotes.read, same, single, inside]

theorem Quiet.identifier {quotes : Quotes} (outside : quotes.double = false)
    (name : List Char)
    : Quiet quotes (Quoted.encode '"' name) := by
  refine .cons rfl (.append (.double ?_ name) (.of_no_dollar _ (by simp)))
  simp [Quotes.isOpen, Quotes.read, outside]

theorem Quiet.literal {quotes : Quotes} (outside : quotes.single = false) (content : List Char)
    : Quiet quotes (Quoted.encode '\'' content) := by
  refine .cons rfl (.append (.double ?_ content) (.of_no_dollar _ (by simp)))
  simp [Quotes.isOpen, Quotes.read, outside]

/-- A text that is copied wherever it starts outside of an identifier, and ends outside of one
again.
-/
def Settled (text : List Char) : Prop :=
  ∀ quotes : Quotes,
    quotes.double = false → Quiet quotes text ∧ (quotes.readAll text).double = false

theorem Settled.append {front back : List Char} (first : Settled front)
    (second : Settled back)
    : Settled (front ++ back) := by
  intro quotes outside
  obtain ⟨quiet, between⟩ := first quotes outside
  obtain ⟨quietBehind, after⟩ := second _ between
  exact ⟨quiet.append quietBehind, by rw [Quotes.readAll_append, after]⟩

theorem Settled.of_absent {text : List Char} (dollar : '$' ∉ text) (mark : '"' ∉ text)
    : Settled text := by
  intro quotes outside
  refine ⟨.of_no_dollar quotes dollar, ?_⟩
  simp [Quotes.readAll_eq_parity, List.count_eq_zero_of_not_mem mark, outside]

/-- A quoted identifier is settled, because its marks come in pairs. -/
theorem Settled.identifier (name : List Char) : Settled (Quoted.encode '"' name) := by
  intro quotes outside
  refine ⟨.identifier outside name, ?_⟩
  simp [Quotes.readAll_eq_parity, Quoted.count_encode, outside]

end Placeholder

namespace Correlation

open Placeholder

/-- The four names in a correlation condition. -/
def names (aliasName : String) (correlation : Correlation) : List Char :=
  (aliasName ++ correlation.foreignKey ++ correlation.parentAlias
    ++ correlation.referencedKey).toList

theorem toList_conditionText (aliasName : String) (correlation : Correlation)
    : (conditionText aliasName (some correlation)).toList
        = Quoted.encode '"' aliasName.toList ++ ['.']
          ++ Quoted.encode '"' correlation.foreignKey.toList ++ [' ', '=', ' ']
          ++ Quoted.encode '"' correlation.parentAlias.toList ++ ['.']
          ++ Quoted.encode '"' correlation.referencedKey.toList := by
  simp [conditionText, quoteColumn, quoteIdentifier, String.toList_append]

/-- The only `'` in a condition are those of its names. -/
theorem count_single_conditionText (aliasName : String) (correlation : Correlation)
    : (conditionText aliasName (some correlation)).toList.count '\''
        = (names aliasName correlation).count '\'' := by
  simp [toList_conditionText, names, Quoted.count_encode, String.toList_append]

theorem even_double_conditionText (aliasName : String) (correlation : Correlation)
    : Even ((conditionText aliasName (some correlation)).toList.count '"') := by
  simp only [toList_conditionText, List.count_append, Quoted.count_encode, if_true]
  rw [Nat.even_iff]
  simp
  omega

/-- A condition is settled: it holds no placeholder, whatever its names are. -/
theorem settled_conditionText (aliasName : String) (correlation : Correlation)
    : Settled (conditionText aliasName (some correlation)).toList := by
  rw [toList_conditionText]
  have dot : Settled ['.'] := .of_absent (by simp) (by simp)
  have equals : Settled [' ', '=', ' '] := .of_absent (by simp) (by simp)
  have identifier (name : String) : Settled (Quoted.encode '"' name.toList) :=
    .identifier name.toList
  exact ((((((identifier _).append dot).append (identifier _)).append equals).append
    (identifier _)).append dot).append (identifier _)

/-- The state behind a condition depends on the `'` in its names alone. -/
theorem readAll_conditionText (aliasName : String) (correlation : Correlation)
    : Quotes.readAll {} (conditionText aliasName (some correlation)).toList
        = ⟨decide ((names aliasName correlation).count '\'' % 2 = 1), false⟩ := by
  have marks := Nat.even_iff.mp (even_double_conditionText aliasName correlation)
  simp [Quotes.readAll_eq_parity, count_single_conditionText, marks]

/-- The pieces of a text around a condition. The front ends where the first identifier starts,
and the back is scanned as if it stood behind the names of the condition.
-/
theorem scan_around_condition (aliasName : String) (correlation : Correlation)
    (front back : List Char)
    (single : Even (front.count '\'')) (double : Even (front.count '"'))
    : scan (front ++ ((conditionText aliasName (some correlation)).toList ++ back))
        = scan front
          ++ ((conditionText aliasName (some correlation)).toList.map .plain
            ++ scanFrom ⟨decide ((names aliasName correlation).count '\'' % 2 = 1), false⟩
              none back) := by
  have quiet := (settled_conditionText aliasName correlation {} rfl).1
  have starts
      : ∀ c ∈ ((conditionText aliasName (some correlation)).toList ++ back).head?,
          c.isDigit = false := by
    simp [toList_conditionText, Quoted.encode]
  rw [scan, scanFrom_append _ _ _ _ (.inr starts), Quotes.readAll_of_even _ single double,
    scanFrom_append _ _ _ _ (.inl quiet.closed), quiet.copied, readAll_conditionText]
  rfl

/-- Splicing a correlation condition into a text keeps the placeholders behind it in step with
those before it exactly if the names in the condition hold an even number of `'` altogether.
Otherwise the scanner takes the text behind the condition for the content of a string literal,
and a lone `$1` there is already left as it is.
-/
theorem renumber_around_condition_iff (aliasName : String) (correlation : Correlation)
    : (∀ (offset : Nat) (front back shiftedFront shiftedBack : String),
          Even (front.toList.count '\'')
          → Even (front.toList.count '"')
          → renumber front offset = .ok shiftedFront
          → renumber back offset = .ok shiftedBack
          → renumber (front ++ conditionText aliasName (some correlation) ++ back) offset
            = .ok (shiftedFront ++ conditionText aliasName (some correlation) ++ shiftedBack))
      ↔ Even ((names aliasName correlation).count '\'') := by
  constructor
  · intro inert
    by_contra odd
    rw [Nat.not_even_iff] at odd
    -- A single placeholder right behind the condition is enough to tell.
    have shifted := inert 1 "" "$1" "" "$2" (by simp) (by simp) rfl rfl
    have pieces := scan_around_condition aliasName correlation [] ['$', '1'] (by simp) (by simp)
    have characters
        : ("" ++ conditionText aliasName (some correlation) ++ "$1").toList
            = [] ++ ((conditionText aliasName (some correlation)).toList ++ ['$', '1']) := by
      simp [String.toList_append]
    have kept
        : shiftAll 1
              (scan ("" ++ conditionText aliasName (some correlation) ++ "$1").toList)
            = .ok ([] ++ ((conditionText aliasName (some correlation)).toList ++ ['$', '1'])) := by
      rw [characters, pieces, odd]
      have literal : shiftAll 1 (scanFrom ⟨true, false⟩ none ['$', '1']) = .ok ['$', '1'] := rfl
      exact shiftAll_append_ok rfl (shiftAll_append_ok (shiftAll_plain 1 _) literal)
    rw [renumber_of_shiftAll kept, Except.ok.injEq] at shifted
    have same := congrArg String.toList shifted
    simp [String.toList_append] at same
  · intro even offset front back shiftedFront shiftedBack single double movedFront movedBack
    have pieces := scan_around_condition aliasName correlation front.toList back.toList
      single double
    have none_odd : decide ((names aliasName correlation).count '\'' % 2 = 1) = false := by
      simp [Nat.even_iff.mp even]
    have moved
        : shiftAll offset
              (scan (front ++ conditionText aliasName (some correlation) ++ back).toList)
            = .ok (shiftedFront.toList
                ++ ((conditionText aliasName (some correlation)).toList
                  ++ shiftedBack.toList)) := by
      rw [String.toList_append, String.toList_append, List.append_assoc, pieces, none_odd]
      exact shiftAll_append_ok (renumber_eq_ok movedFront)
        (shiftAll_append_ok (shiftAll_plain offset _) (renumber_eq_ok movedBack))
    rw [renumber_of_shiftAll moved, Except.ok.injEq, ← String.toList_inj]
    simp [String.toList_append]

end Correlation

end NestedSelect
