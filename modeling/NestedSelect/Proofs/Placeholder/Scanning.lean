import Mathlib.Algebra.Group.Nat.Even
import NestedSelect.Placeholder
/-!
Scanning across seams. What a front text leaves behind is the state of its quotes and perhaps an
unfinished digit run, and that alone decides how the text behind it is scanned. A shifted text is
cut at the same places as the text it came from.
-/

namespace NestedSelect.Placeholder

namespace Quotes

/-- The state after all characters of a text. -/
def readAll (quotes : Quotes) (text : List Char) : Quotes :=
  text.foldl Quotes.read quotes

@[simp]
theorem readAll_nil (quotes : Quotes) : quotes.readAll [] = quotes := rfl

@[simp]
theorem readAll_cons (quotes : Quotes) (c : Char) (rest : List Char)
    : quotes.readAll (c :: rest) = (quotes.read c).readAll rest := rfl

theorem readAll_append (quotes : Quotes) (front back : List Char)
    : quotes.readAll (front ++ back) = (quotes.readAll front).readAll back :=
  List.foldl_append

theorem read_digit (quotes : Quotes) {c : Char} (digit : c.isDigit = true)
    : quotes.read c = quotes := by
  have single : c ≠ '\'' := by rintro rfl; contradiction
  have double : c ≠ '"' := by rintro rfl; contradiction
  simp [read, single, double]

/-- Each state bit is the parity of the count of its own quote character, by list induction. -/
theorem readAll_eq_parity (quotes : Quotes) (text : List Char)
    : quotes.readAll text
        = ⟨quotes.single ^^ decide (text.count '\'' % 2 = 1),
            quotes.double ^^ decide (text.count '"' % 2 = 1)⟩ := by
  induction text generalizing quotes with
  | nil => simp
  | cons c rest ih =>
      have flip (n : Nat) : decide ((n + 1) % 2 = 1) = !decide (n % 2 = 1) := by
        rw [← decide_not, decide_eq_decide]
        omega
      rw [readAll_cons, ih]
      by_cases single : c = '\''
      · subst single
        simp [read, flip]
      · by_cases double : c = '"'
        · subst double
          simp [read, flip]
        · simp [read, single, double, List.count_cons_of_ne]

theorem readAll_of_even (quotes : Quotes) {text : List Char}
    (single : Even (text.count '\'')) (double : Even (text.count '"'))
    : quotes.readAll text = quotes := by
  rw [Nat.even_iff] at single double
  simp [readAll_eq_parity, single, double]

end Quotes

-----------------------------------------------------------------------------------------
-- One character at a time
-----------------------------------------------------------------------------------------

/-- The run that may start right after a character: a `$` outside of quotes opens one. -/
def opened (quotes : Quotes) (c : Char) : Option (List Char) :=
  if c = '$' && quotes.outside then some [] else none

/-- A run that has just been opened holds no digit yet. -/
theorem opened_eq_some {quotes : Quotes} {c : Char} {digits : List Char}
    (h : digits ∈ opened quotes c)
    : digits = [] := by
  unfold opened at h
  split at h
  · exact (Option.some.inj h).symm
  · contradiction

theorem getD_opened (quotes : Quotes) (c : Char) : (opened quotes c).getD [] = [] := by
  unfold opened
  split <;> rfl

theorem scanFrom_digit (quotes : Quotes) (digits rest : List Char) {c : Char}
    (digit : c.isDigit = true)
    : scanFrom quotes (some digits) (c :: rest) = scanFrom quotes (some (digits ++ [c])) rest := by
  rw [scanFrom]
  exact digit

theorem scanFrom_plain (quotes : Quotes) (open? : Option (List Char)) (c : Char)
    (rest : List Char) (ends : open? = none ∨ c.isDigit = false)
    : scanFrom quotes open? (c :: rest)
        = closeRun open?
          ++ .plain c :: scanFrom (quotes.read c) (opened quotes c) rest := by
  rcases ends with rfl | notDigit
  · rfl
  · rw [scanFrom]
    · rfl
    · simp [notDigit]

/-- The digits read so far of a run that is still open at the end of a text. -/
def runAfter (quotes : Quotes) (open? : Option (List Char)) : List Char → Option (List Char)
  | [] => open?
  | c :: rest =>
    match open?, c.isDigit with
    | some digits, true => runAfter quotes (some (digits ++ [c])) rest
    | _, _ => runAfter (quotes.read c) (opened quotes c) rest

theorem runAfter_digit (quotes : Quotes) (digits rest : List Char) {c : Char}
    (digit : c.isDigit = true)
    : runAfter quotes (some digits) (c :: rest) = runAfter quotes (some (digits ++ [c])) rest := by
  rw [runAfter]
  exact digit

theorem runAfter_plain (quotes : Quotes) (open? : Option (List Char)) (c : Char)
    (rest : List Char) (ends : open? = none ∨ c.isDigit = false)
    : runAfter quotes open? (c :: rest)
        = runAfter (quotes.read c) (opened quotes c) rest := by
  rcases ends with rfl | notDigit
  · rfl
  · rw [runAfter]
    simp [notDigit]

/-- Every character either goes into an open run or leaves the run behind. -/
theorem taken_or_ends (open? : Option (List Char)) (c : Char)
    : (∃ digits, open? = some digits ∧ c.isDigit = true)
      ∨ (open? = none ∨ c.isDigit = false) := by
  cases open? with
  | none => exact .inr (.inl rfl)
  | some digits =>
      cases digit : c.isDigit with
      | false => exact .inr (.inr rfl)
      | true => exact .inl ⟨digits, rfl, rfl⟩

-----------------------------------------------------------------------------------------
-- Seams
-----------------------------------------------------------------------------------------

theorem runAfter_append (quotes : Quotes) (open? : Option (List Char)) (front back : List Char)
    : runAfter quotes open? (front ++ back)
        = runAfter (quotes.readAll front) (runAfter quotes open? front) back := by
  induction front generalizing quotes open? with
  | nil => rfl
  | cons c rest ih =>
      rw [List.cons_append, Quotes.readAll_cons]
      rcases taken_or_ends open? c with ⟨digits, rfl, digit⟩ | ends
      · rw [runAfter_digit _ _ _ digit, runAfter_digit _ _ _ digit, ih,
          quotes.read_digit digit]
      · rw [runAfter_plain _ _ _ _ ends, runAfter_plain _ _ _ _ ends, ih]

/-- A run that is open at a seam ends there unless a digit follows. -/
theorem scanFrom_close (quotes : Quotes) (open? : Option (List Char)) (text : List Char)
    (ends : open? = none ∨ ∀ c ∈ text.head?, c.isDigit = false)
    : scanFrom quotes open? text = closeRun open? ++ scanFrom quotes none text := by
  cases text with
  | nil => simp [scanFrom, closeRun]
  | cons c rest =>
      rw [scanFrom_plain quotes open? c rest (ends.imp_right fun ends => ends c rfl),
        scanFrom_plain quotes none c rest (.inl rfl)]
      rfl

/-- Scanning goes over a seam: the back is scanned with the quotes that the front leaves behind.
The one exception is a digit behind an open run, which would belong to both sides. By induction
over the front, where a digit of a run leaves the quotes as they are.
-/
theorem scanFrom_append (quotes : Quotes) (open? : Option (List Char)) (front back : List Char)
    (apart : runAfter quotes open? front = none ∨ ∀ c ∈ back.head?, c.isDigit = false)
    : scanFrom quotes open? (front ++ back)
        = scanFrom quotes open? front ++ scanFrom (quotes.readAll front) none back := by
  induction front generalizing quotes open? with
  | nil => exact scanFrom_close quotes open? back apart
  | cons c rest ih =>
      rw [List.cons_append, Quotes.readAll_cons]
      rcases taken_or_ends open? c with ⟨digits, rfl, digit⟩ | ends
      · rw [runAfter_digit _ _ _ digit] at apart
        rw [scanFrom_digit _ _ _ digit, scanFrom_digit _ _ _ digit, ih _ _ apart,
          quotes.read_digit digit]
      · rw [runAfter_plain _ _ _ _ ends] at apart
        rw [scanFrom_plain _ _ _ _ ends, scanFrom_plain _ _ _ _ ends, ih _ _ apart,
          List.append_assoc, List.cons_append]

-----------------------------------------------------------------------------------------
-- Shifted texts
-----------------------------------------------------------------------------------------

/-- Shifting goes over a seam, and the first failure is the failure of both. -/
theorem shiftAll_append (offset : Nat) (front back : List Piece)
    : shiftAll offset (front ++ back)
        = (do
          let shiftedFront ← shiftAll offset front
          let shiftedBack ← shiftAll offset back
          return shiftedFront ++ shiftedBack) := by
  induction front with
  | nil =>
      simp only [shiftAll, List.nil_append, bind, Except.bind]
      cases shiftAll offset back <;> rfl
  | cons piece rest ih =>
      rw [List.cons_append, shiftAll, shiftAll, ih]
      cases piece.shift offset with
      | error digits => rfl
      | ok shifted =>
          simp only [bind, Except.bind]
          cases shiftAll offset rest with
          | error digits => rfl
          | ok shiftedRest =>
              cases shiftAll offset back with
              | error digits => rfl
              | ok shiftedBack => simp [pure, Except.pure]

/-- A text that ends outside of quotes is shifted on its own, unless a digit goes on with a run at
its end.
-/
theorem shiftAll_scan_append {front : List Char} (outside : Quotes.readAll {} front = {})
    (offset : Nat) {back : List Char}
    (apart : runAfter {} none front = none ∨ ∀ c ∈ back.head?, c.isDigit = false)
    : shiftAll offset (scan (front ++ back))
        = (do
          let shiftedFront ← shiftAll offset (scan front)
          let shiftedBack ← shiftAll offset (scan back)
          return shiftedFront ++ shiftedBack) := by
  rw [scan, scanFrom_append _ _ _ _ apart, outside, shiftAll_append]
  rfl

theorem shiftAll_append_ok {offset : Nat} {front back : List Piece}
    {shiftedFront shiftedBack : List Char} (first : shiftAll offset front = .ok shiftedFront)
    (second : shiftAll offset back = .ok shiftedBack)
    : shiftAll offset (front ++ back) = .ok (shiftedFront ++ shiftedBack) := by
  rw [shiftAll_append, first, second]
  rfl

/-- The piece that stands in a shifted text in place of a piece. -/
def Piece.moved (offset : Nat) : Piece → Piece
  | .plain c => .plain c
  | .run digits => .run (Nat.toDigits 10 (number digits + offset))

/-- A piece as text. -/
def Piece.text : Piece → List Char
  | .plain c => [c]
  | .run digits => digits

theorem Piece.shift_eq_ok {offset : Nat} {piece : Piece} {shifted : List Char}
    (h : piece.shift offset = .ok shifted)
    : shifted = (piece.moved offset).text := by
  cases piece with
  | plain c =>
      rw [shift, Except.ok.injEq] at h
      exact h.symm
  | run digits =>
      rw [shift] at h
      split at h
      · rw [Except.ok.injEq] at h
        exact h.symm
      · contradiction

/-- Pieces that can be shifted become the texts of the moved pieces. -/
theorem shiftAll_eq_ok {offset : Nat} {pieces : List Piece} {shifted : List Char}
    (h : shiftAll offset pieces = .ok shifted)
    : shifted = (pieces.map (Piece.moved offset)).flatMap Piece.text := by
  induction pieces generalizing shifted with
  | nil =>
      rw [shiftAll, Except.ok.injEq] at h
      exact h.symm
  | cons piece rest ih =>
      rw [shiftAll] at h
      split at h
      · contradiction
      next front first =>
        split at h
        · contradiction
        next back later =>
          rw [Except.ok.injEq] at h
          subst h
          rw [List.map_cons, List.flatMap_cons, ← ih later, ← Piece.shift_eq_ok first]

theorem closeRun_text (open? : Option (List Char))
    : (closeRun open?).flatMap Piece.text = open?.getD [] := by
  rcases open? with _ | (_ | ⟨d, digits⟩) <;> simp [closeRun, Piece.text]

/-- The pieces of a text make up the text, with what is held of an open run in front. -/
theorem scanFrom_text (quotes : Quotes) (open? : Option (List Char)) (text : List Char)
    : (scanFrom quotes open? text).flatMap Piece.text = open?.getD [] ++ text := by
  induction text generalizing quotes open? with
  | nil => simp [scanFrom, closeRun_text]
  | cons c rest ih =>
      rcases taken_or_ends open? c with ⟨digits, rfl, digit⟩ | ends
      · simp [scanFrom_digit _ _ _ digit, ih]
      · simp [scanFrom_plain _ _ _ _ ends, closeRun_text, ih, Piece.text, getD_opened]

theorem scan_text (text : List Char)
    : (scan text).flatMap Piece.text = text :=
  scanFrom_text {} none text

theorem scanFrom_digits (quotes : Quotes) (held digits rest : List Char)
    (all : ∀ d ∈ digits, d.isDigit = true)
    : scanFrom quotes (some held) (digits ++ rest)
        = scanFrom quotes (some (held ++ digits)) rest := by
  induction digits generalizing held with
  | nil => simp
  | cons d digits ih =>
      rw [List.cons_append, scanFrom_digit _ _ _ (all d (by simp)),
        ih _ fun d member => all d (by simp [member])]
      simp

/-- A moved text behind a `$` is scanned as the moved run, whatever was held of the run before.
That the run is closed is the part that `rest` must not undo by a digit of its own.
-/
theorem scanFrom_moved_close (quotes : Quotes) (offset : Nat) (open? : Option (List Char))
    (rest : List Char) (ends : open? = none ∨ ∀ c ∈ rest.head?, c.isDigit = false)
    : scanFrom quotes (open?.map fun _ => [])
          (((closeRun open?).map (Piece.moved offset)).flatMap Piece.text ++ rest)
        = (closeRun open?).map (Piece.moved offset) ++ scanFrom quotes none rest := by
  rcases open? with _ | (_ | ⟨d, digits⟩)
  · rfl
  · exact scanFrom_close quotes (some []) rest ends
  · have shape (number : Nat)
        : closeRun (some (Nat.toDigits 10 number)) = [.run (Nat.toDigits 10 number)] := by
      cases written : Nat.toDigits 10 number with
      | nil => exact (Nat.toDigits_ne_nil written).elim
      | cons d digits => rfl
    simp only [closeRun, List.map_cons, List.map_nil, Piece.moved, List.flatMap_cons,
      List.flatMap_nil, Piece.text, List.append_nil, Option.map_some]
    rw [scanFrom_digits _ _ _ _ fun d member =>
        Nat.isDigit_of_mem_toDigits (by omega) (by omega) member,
      List.nil_append, scanFrom_close _ _ _ (ends.imp_left (by simp)), shape]

/-- A text made of moved pieces is cut at the same places as the text that the pieces come from:
its digit runs are exactly the moved ones. By induction over the original text.
-/
theorem scanFrom_moved (quotes : Quotes) (offset : Nat) (open? : Option (List Char))
    (text : List Char)
    : scanFrom quotes (open?.map fun _ => [])
          (((scanFrom quotes open? text).map (Piece.moved offset)).flatMap Piece.text)
        = (scanFrom quotes open? text).map (Piece.moved offset) := by
  induction text generalizing quotes open? with
  | nil =>
      have closed := scanFrom_moved_close quotes offset open? [] (.inr (by simp))
      simpa [scanFrom, closeRun] using closed
  | cons c rest ih =>
      rcases taken_or_ends open? c with ⟨digits, rfl, digit⟩ | ends
      · rw [scanFrom_digit _ _ _ digit]
        exact ih quotes (some (digits ++ [c]))
      · have fresh : (opened quotes c).map (fun _ => []) = opened quotes c := by
          unfold opened
          split <;> rfl
        have later := ih (quotes.read c) (opened quotes c)
        rw [fresh] at later
        rw [scanFrom_plain _ _ _ _ ends, List.map_append, List.flatMap_append,
          scanFrom_moved_close _ _ _ _ (ends.imp_right fun notDigit => by
            simpa [Piece.moved, Piece.text] using notDigit)]
        simp only [List.map_cons, Piece.moved, List.flatMap_cons, Piece.text,
          List.cons_append, List.nil_append]
        rw [scanFrom_plain _ _ _ _ (.inl rfl), later]
        rfl

theorem shiftAll_plain (offset : Nat) (text : List Char)
    : shiftAll offset (text.map .plain) = .ok text := by
  induction text with
  | nil => rfl
  | cons c rest ih =>
      rw [List.map_cons, shiftAll, ih]
      rfl

theorem renumber_of_shiftAll {text : String} {offset : Nat} {shifted : List Char}
    (h : shiftAll offset (scan text.toList) = .ok shifted)
    : renumber text offset = .ok (String.ofList shifted) := by
  rw [renumber, h]

theorem renumber_eq_ok {text shifted : String} {offset : Nat}
    (h : renumber text offset = .ok shifted)
    : shiftAll offset (scan text.toList) = .ok shifted.toList := by
  rw [renumber] at h
  split at h
  next characters moved =>
    rw [Except.ok.injEq] at h
    rw [moved, ← h, String.toList_ofList]
  · contradiction

/-- A renumbered text has the pieces of the original, moved. -/
theorem scan_renumbered {text shifted : String} {offset : Nat}
    (h : renumber text offset = .ok shifted)
    : scan shifted.toList = (scan text.toList).map (Piece.moved offset) := by
  rw [shiftAll_eq_ok (renumber_eq_ok h)]
  exact scanFrom_moved {} offset none text.toList

end NestedSelect.Placeholder
