import NestedSelect.Proofs.Placeholder.RenumberedTokens
/-!
Placeholders by where they stand in a text. The digits of the placeholders are the only places at
which a text is cut, there is one way to cut a text at them, and renumbering changes what stands
there and nothing else.
-/

namespace NestedSelect.Placeholder

/-- The digits of a placeholder of a text, between all that is in front of them and all that is
behind. They are all the digits right after a `$`, at least one, and the text before the `$` holds
an even number of `'` and an even number of `"`.
-/
structure Occurs (text front digits back : List Char) : Prop where
  split : text = front ++ (digits ++ back)
  opened
    : ∃ before,
        front = before ++ ['$'] ∧ Even (before.count '\'') ∧ Even (before.count '"')
  nonempty : digits ≠ []
  decimal : ∀ d ∈ digits, d.isDigit = true
  maximal : ∀ c ∈ back.head?, c.isDigit = false

/-- The pieces make up the text, and their runs are the digits of its placeholders, each in its
place.
-/
structure Cuts (text : List Char) (pieces : List Piece) : Prop where
  whole : pieces.flatMap Piece.text = text
  runs
    : ∀ front digits back,
        Occurs text front digits back
        ↔ ∃ leading trailing,
            pieces = leading ++ .run digits :: trailing
            ∧ leading.flatMap Piece.text = front
            ∧ trailing.flatMap Piece.text = back

-----------------------------------------------------------------------------------------
-- One way to cut
-----------------------------------------------------------------------------------------

/-- Every run of the one list of pieces stands between the same texts in the other. -/
def RunsAmong (pieces others : List Piece) : Prop :=
  ∀ leading digits trailing,
    pieces = leading ++ .run digits :: trailing
    → ∃ front back,
        others = front ++ .run digits :: back
        ∧ front.flatMap Piece.text = leading.flatMap Piece.text
        ∧ back.flatMap Piece.text = trailing.flatMap Piece.text

/-- No run is empty, so every piece shows in the text. -/
def Visible (pieces : List Piece) : Prop :=
  ∀ piece ∈ pieces, piece.text ≠ []

theorem Visible.eq_nil {pieces : List Piece} (visible : Visible pieces)
    (absent : pieces.flatMap Piece.text = [])
    : pieces = [] := by
  rw [List.flatMap_eq_nil_iff] at absent
  exact List.eq_nil_iff_forall_not_mem.mpr fun piece member =>
    visible piece member (absent piece member)

theorem Visible.tail {piece : Piece} {rest : List Piece} (visible : Visible (piece :: rest))
    : Visible rest :=
  fun other member => visible other (List.mem_cons_of_mem _ member)

/-- What is among the runs behind a common first piece is among them without it. -/
theorem RunsAmong.tail {first : Piece} {pieces others : List Piece}
    (shown : first.text ≠ []) (among : RunsAmong (first :: pieces) (first :: others))
    : RunsAmong pieces others := by
  rintro leading digits trailing rfl
  obtain ⟨front, back, split, before, behind⟩ := among (first :: leading) digits trailing rfl
  cases front with
  | nil => simp [shown] at before
  | cons piece front =>
      obtain ⟨rfl, rest⟩ := List.cons.inj split
      rw [List.flatMap_cons, List.flatMap_cons, List.append_cancel_left_eq] at before
      exact ⟨front, back, rest, before, behind⟩

/-- Pieces that start with a run start with the same one as other pieces of the text. -/
theorem RunsAmong.head {digits : List Char} {pieces others : List Piece}
    (among : RunsAmong (.run digits :: pieces) others) (visible : Visible others)
    : ∃ rest, others = .run digits :: rest := by
  obtain ⟨front, back, rfl, before, _⟩ := among [] digits pieces rfl
  have shown : Visible front := fun piece member => visible piece (by simp [member])
  obtain rfl := shown.eq_nil before
  exact ⟨back, rfl⟩

/-- Pieces with the same runs in the same places of the same text are the same. By induction over
the pieces, with the first piece of each compared.
-/
theorem eq_of_runsAmong {pieces others : List Piece} (visible : Visible pieces)
    (othersVisible : Visible others) (among : RunsAmong pieces others)
    (amongOthers : RunsAmong others pieces)
    (same : pieces.flatMap Piece.text = others.flatMap Piece.text)
    : pieces = others := by
  induction pieces generalizing others with
  | nil => exact (othersVisible.eq_nil same.symm).symm
  | cons piece rest ih =>
      have first : ∃ behind, others = piece :: behind := by
        cases piece with
        | run digits => exact among.head othersVisible
        | plain c =>
            cases others with
            | nil => exact absurd (List.append_eq_nil_iff.mp same).1 (by simp [Piece.text])
            | cons other behind =>
                cases other with
                | run digits =>
                    obtain ⟨_, split⟩ := amongOthers.head visible
                    cases split
                | plain d =>
                    obtain ⟨rfl, _⟩ := List.cons.inj same
                    exact ⟨behind, rfl⟩
      obtain ⟨behind, rfl⟩ := first
      have shown := visible piece (by simp)
      rw [List.flatMap_cons, List.flatMap_cons, List.append_cancel_left_eq] at same
      rw [ih visible.tail othersVisible.tail (among.tail shown) (amongOthers.tail shown) same]

theorem Cuts.visible {text : List Char} {pieces : List Piece} (cuts : Cuts text pieces)
    : Visible pieces := by
  intro piece member
  cases piece with
  | plain c => simp [Piece.text]
  | run digits =>
      obtain ⟨leading, trailing, split⟩ := List.append_of_mem member
      exact ((cuts.runs _ digits _).mpr ⟨leading, trailing, split, rfl, rfl⟩).nonempty

theorem Cuts.runsAmong {text : List Char} {pieces others : List Piece}
    (cuts : Cuts text pieces) (alike : Cuts text others)
    : RunsAmong pieces others := by
  intro leading digits trailing split
  exact (alike.runs _ _ _).mp ((cuts.runs _ _ _).mpr ⟨leading, trailing, split, rfl, rfl⟩)

/-- There is one way to cut a text at its placeholders. -/
theorem Cuts.unique {text : List Char} {pieces others : List Piece} (cuts : Cuts text pieces)
    (alike : Cuts text others)
    : pieces = others :=
  eq_of_runsAmong cuts.visible alike.visible (cuts.runsAmong alike) (alike.runsAmong cuts)
    (cuts.whole.trans alike.whole.symm)

-----------------------------------------------------------------------------------------
-- Scanning cuts
-----------------------------------------------------------------------------------------

theorem Quotes.outside_readAll_iff (text : List Char)
    : (Quotes.readAll {} text).outside = true
      ↔ Even (text.count '\'') ∧ Even (text.count '"') := by
  simp [Quotes.readAll_eq_parity, Quotes.outside, Nat.even_iff]

/-- A closed run is all there is of its pieces. -/
theorem closeRun_eq_append {open? : Option (List Char)} {leading trailing : List Piece}
    {digits : List Char} (found : closeRun open? = leading ++ .run digits :: trailing)
    : open? = some digits ∧ leading = [] ∧ trailing = [] := by
  rcases open? with _ | (_ | ⟨d, held⟩)
  · simp [closeRun] at found
  · simp [closeRun] at found
  · obtain ⟨starts, same⟩ | ⟨_, _, none⟩ := List.cons_eq_append_iff.mp found
    · simp_all
    · simp at none

/-- A run that scanning finds has been opened by a `$` outside of quotes, unless it is the one that
was open from the start, and it goes on for as long as there are digits. By induction over the text.
-/
theorem scanFrom_run_opened (quotes : Quotes) (open? : Option (List Char)) (text : List Char)
    {leading trailing : List Piece} {digits : List Char}
    (found : scanFrom quotes open? text = leading ++ .run digits :: trailing)
    : (∀ c ∈ (trailing.flatMap Piece.text).head?, c.isDigit = false)
      ∧ (leading = [] ∧ open?.isSome = true
        ∨ ∃ before,
            leading.flatMap Piece.text = open?.getD [] ++ (before ++ ['$'])
            ∧ (quotes.readAll before).outside = true) := by
  induction text generalizing quotes open? leading with
  | nil =>
      obtain ⟨rfl, rfl, rfl⟩ := closeRun_eq_append found
      exact ⟨by simp, .inl ⟨rfl, rfl⟩⟩
  | cons c rest ih =>
      rcases taken_or_ends open? c with ⟨held, rfl, digit⟩ | ends
      · rw [scanFrom_digit _ _ _ digit] at found
        obtain ⟨maximal, starts | ⟨before, spelled, outside⟩⟩ := ih _ _ found
        · exact ⟨maximal, .inl ⟨starts.1, rfl⟩⟩
        · refine ⟨maximal, .inr ⟨c :: before, ?_, ?_⟩⟩
          · simpa using spelled
          · rwa [Quotes.readAll_cons, quotes.read_digit digit]
      · rw [scanFrom_plain _ _ _ _ ends] at found
        rcases List.append_eq_append_iff.mp found with ⟨front, rfl, later⟩ | ⟨back, closed, later⟩
        · -- The run comes behind `c`.
          obtain ⟨_, plain⟩ | ⟨front, rfl, behind⟩ := List.cons_eq_append_iff.mp later
          · simp at plain
          · obtain ⟨maximal, ⟨rfl, opens⟩ | ⟨before, spelled, outside⟩⟩ := ih _ _ behind
            · obtain ⟨rfl, outside⟩ : c = '$' ∧ quotes.outside = true := by
                simpa [opened] using opens
              refine ⟨maximal, .inr ⟨[], ?_, outside⟩⟩
              simp [closeRun_text, Piece.text]
            · refine ⟨maximal, .inr ⟨c :: before, ?_, outside⟩⟩
              simp [closeRun_text, Piece.text, spelled, getD_opened]
        · -- The run is the one that `c` closes.
          obtain ⟨_, plain⟩ | ⟨back, rfl, behind⟩ := List.cons_eq_append_iff.mp later
          · simp at plain
          · obtain ⟨rfl, rfl, rfl⟩ := closeRun_eq_append closed
            obtain rfl : trailing = _ := behind
            have notDigit : c.isDigit = false := ends.resolve_left (by simp)
            exact ⟨by simpa [Piece.text] using notDigit, .inl ⟨rfl, rfl⟩⟩

/-- The runs that scanning finds are digits of placeholders. -/
theorem occurs_of_scan {text digits : List Char} {leading trailing : List Piece}
    (found : scan text = leading ++ .run digits :: trailing)
    : Occurs text (leading.flatMap Piece.text) digits (trailing.flatMap Piece.text) := by
  obtain ⟨maximal, ⟨_, open_⟩ | ⟨before, spelled, outside⟩⟩ := scanFrom_run_opened _ _ _ found
  · contradiction
  · have member : .run digits ∈ scan text := found ▸ by simp
    obtain ⟨nonempty, decimal⟩ := scanFrom_run_digits {} none text (by simp) digits member
    refine ⟨?_, ⟨before, spelled, (Quotes.outside_readAll_iff before).mp outside⟩, nonempty,
      decimal, maximal⟩
    rw [← scan_text text, found]
    simp [Piece.text]

/-- Scanning finds the digits of every placeholder. -/
theorem scan_of_occurs {text front digits back : List Char} (occurs : Occurs text front digits back)
    : ∃ leading trailing,
        scan text = leading ++ .run digits :: trailing
        ∧ leading.flatMap Piece.text = front
        ∧ trailing.flatMap Piece.text = back := by
  obtain ⟨split, ⟨before, rfl, single, double⟩, nonempty, decimal, maximal⟩ := occurs
  have opens : opened {} '$' = some [] := rfl
  have closed : closeRun (some digits) = [.run digits] := by
    cases digits with
    | nil => contradiction
    | cons d rest => rfl
  refine ⟨scan before ++ [.plain '$'], scanFrom {} none back, ?_, ?_, scanFrom_text {} none back⟩
  · have seam : ∀ c ∈ ('$' :: (digits ++ back)).head?, c.isDigit = false := by simp
    rw [split, List.append_assoc, List.singleton_append, scan,
      scanFrom_append {} none before _ (.inr seam), Quotes.readAll_of_even _ single double,
      scanFrom_plain _ _ _ _ (.inl rfl), opens, scanFrom_digits _ _ _ _ decimal,
      scanFrom_close _ _ _ (.inr maximal), List.nil_append, closed]
    simp [scan, closeRun, Quotes.read]
  · rw [List.flatMap_append, scan_text]
    rfl

theorem cuts_scan (text : List Char) : Cuts text (scan text) where
  whole := scan_text text
  runs := by
    intro front digits back
    constructor
    · exact scan_of_occurs
    · rintro ⟨leading, trailing, found, rfl, rfl⟩
      exact occurs_of_scan found

/-- What cuts a text are the pieces that scanning gives. -/
theorem cuts_iff (text : List Char) (pieces : List Piece)
    : Cuts text pieces ↔ pieces = scan text := by
  constructor
  · exact fun cuts => cuts.unique (cuts_scan text)
  · rintro rfl
    exact cuts_scan text

-----------------------------------------------------------------------------------------
-- What is shifted
-----------------------------------------------------------------------------------------

/-- The digits of a piece that is a run. -/
def Piece.digits? : Piece → Option (List Char)
  | .plain _ => none
  | .run digits => some digits

/-- The runs among some pieces, in order. -/
def runs (pieces : List Piece) : List (List Char) :=
  pieces.filterMap Piece.digits?

@[simp]
theorem runs_nil : runs [] = [] := rfl

@[simp]
theorem runs_plain (c : Char) (rest : List Piece) : runs (.plain c :: rest) = runs rest := rfl

@[simp]
theorem runs_run (digits : List Char) (rest : List Piece)
    : runs (.run digits :: rest) = digits :: runs rest := rfl

theorem mem_runs {pieces : List Piece} {digits : List Char}
    : digits ∈ runs pieces ↔ .run digits ∈ pieces := by
  rw [runs, List.mem_filterMap]
  constructor
  · rintro ⟨piece, member, found⟩
    cases piece with
    | plain c => contradiction
    | run held =>
        obtain rfl := Option.some.inj found
        exact member
  · intro member
    exact ⟨_, member, rfl⟩

/-- A run whose number would not stay below the limit. -/
def exceeds (offset : Nat) (digits : List Char) : Bool :=
  2 ^ 64 ≤ number digits + offset

theorem exceeds_eq_false_iff (offset : Nat) (digits : List Char)
    : exceeds offset digits = false ↔ number digits + offset < 2 ^ 64 := by
  rw [exceeds, decide_eq_false_iff_not, not_le]

/-- Pieces are shifted unless the number of a run gets too large. The first such run is reported. By
induction over the pieces.
-/
theorem shiftAll_eq (offset : Nat) (pieces : List Piece)
    : shiftAll offset pieces
        = match (runs pieces).find? (exceeds offset) with
          | some digits => .error digits
          | none => .ok ((pieces.map (Piece.moved offset)).flatMap Piece.text) := by
  induction pieces with
  | nil => rfl
  | cons piece rest ih =>
      rw [shiftAll, ih]
      cases piece with
      | plain c =>
          rw [runs_plain]
          cases (runs rest).find? (exceeds offset) <;> rfl
      | run digits =>
          rw [runs_run, Piece.shift]
          cases large : exceeds offset digits with
          | true =>
              have unfit : ¬number digits + offset < limit :=
                not_lt_of_ge (of_decide_eq_true large)
              rw [if_neg unfit, List.find?_cons_of_pos large]
          | false =>
              have fits : number digits + offset < limit := (exceeds_eq_false_iff _ _).mp large
              rw [if_pos fits, List.find?_cons_of_neg (by simp [large])]
              cases (runs rest).find? (exceeds offset) <;> rfl

theorem renumber_eq_ok_iff (text output : String) (offset : Nat)
    : renumber text offset = .ok output
      ↔ (∀ digits ∈ runs (scan text.toList), number digits + offset < 2 ^ 64)
        ∧ ((scan text.toList).map (Piece.moved offset)).flatMap Piece.text = output.toList := by
  have bounded
      : (∀ digits ∈ runs (scan text.toList), number digits + offset < 2 ^ 64)
        ↔ (runs (scan text.toList)).find? (exceeds offset) = none := by
    simp only [List.find?_eq_none, Bool.not_eq_true, exceeds_eq_false_iff]
  rw [bounded, renumber, shiftAll_eq]
  cases (runs (scan text.toList)).find? (exceeds offset) with
  | some digits => simp
  | none => simp [← String.toList_inj]

theorem renumber_eq_error_iff (text reported : String) (offset : Nat)
    : renumber text offset = .error reported
      ↔ (runs (scan text.toList)).find? (exceeds offset) = some reported.toList := by
  rw [renumber, shiftAll_eq]
  cases (runs (scan text.toList)).find? (exceeds offset) with
  | some digits => simp [← String.toList_inj]
  | none => simp

theorem exists_renumber_iff (text : String) (offset : Nat)
    : (∃ output, renumber text offset = .ok output)
      ↔ ∀ digits ∈ runs (scan text.toList), number digits + offset < 2 ^ 64 := by
  constructor
  · rintro ⟨output, renumbered⟩
    exact ((renumber_eq_ok_iff _ _ _).mp renumbered).1
  · intro bounded
    exact ⟨.ofList _, (renumber_eq_ok_iff _ _ _).mpr ⟨bounded, String.toList_ofList.symm⟩⟩

-----------------------------------------------------------------------------------------
-- Placeholder numbers
-----------------------------------------------------------------------------------------

/-- The number of a placeholder. -/
def Piece.number? : Piece → Option Nat
  | .plain _ => none
  | .run digits => some (number digits)

/-- The numbers of the placeholders of a text, in order. -/
def numbers (text : String) : List Nat :=
  (scan text.toList).filterMap Piece.number?

/-- The decimal of a number denotes that number. -/
theorem number_toDigits (n : Nat) : number (Nat.toDigits 10 n) = n :=
  Nat.ofDigitChars_ten_toDigits

/-- Renumbering keeps the placeholders in order and adds the offset to each. -/
theorem numbers_renumbered {text shifted : String} {offset : Nat}
    (h : renumber text offset = .ok shifted)
    : numbers shifted = (numbers text).map (· + offset) := by
  have moved (piece : Piece)
      : (piece.moved offset).number? = piece.number?.map (· + offset) := by
    cases piece with
    | plain c => rfl
    | run digits => simp [Piece.moved, Piece.number?, number_toDigits]
  simp only [numbers, scan_renumbered h, List.filterMap_map, List.map_filterMap,
    Function.comp_def, moved]

-----------------------------------------------------------------------------------------
-- Renumbered texts
-----------------------------------------------------------------------------------------

/-- A text has one way to be cut at the digits of its placeholders. It is renumbered unless some
placeholder does not stay below `2 ^ 64`, and the digits of the first such placeholder are reported
as they are. The output is cut into the same pieces, but for the runs, each of which is the
decimal of its number and the offset.
-/
theorem renumber_replaces_runs (text : String) (offset : Nat)
    : ∃ pieces,
        (∀ others, Cuts text.toList others ↔ others = pieces)
        ∧ ((∃ output, renumber text offset = .ok output)
          ↔ ∀ digits ∈ runs pieces, number digits + offset < 2 ^ 64)
        ∧ (∀ output,
            renumber text offset = .ok output
            → ∀ others, Cuts output.toList others ↔ others = pieces.map (Piece.moved offset))
        ∧ ∀ reported,
            renumber text offset = .error reported
            ↔ (runs pieces).find? (exceeds offset) = some reported.toList := by
  refine ⟨scan text.toList, cuts_iff text.toList, exists_renumber_iff text offset, ?_,
    fun reported => renumber_eq_error_iff text reported offset⟩
  intro output renumbered others
  rw [cuts_iff, scan_renumbered renumbered]

example : renumber "id = $1 or '$1' = $007" 2 = .ok "id = $3 or '$1' = $9" := by
  decide +kernel

example : renumber "$1 or $18446744073709551615" 1 = .error "18446744073709551615" := by
  decide +kernel

end NestedSelect.Placeholder
