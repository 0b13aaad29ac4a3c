import NestedSelect.Proofs.Placeholder.CorrelationCondition
import NestedSelect.Proofs.Placeholder.RepeatedRenumbering
import NestedSelect.Proofs.Statement.ArgumentAlignment
/-!
Statements as fragments of other statements. A rendered statement counts its own arguments from one,
like the answer of a provider. Where all of its text outside of the answers is copied, renumbering
the whole statement renumbers each answer in its place, and that is how the statement is rendered
behind other arguments.
-/

namespace NestedSelect

open Placeholder

-----------------------------------------------------------------------------------------
-- Texts that are copied
-----------------------------------------------------------------------------------------

namespace Placeholder

/-- The text is copied from outside of quotes, and ends outside of quotes again. -/
structure Inert (text : List Char) : Prop where
  quiet : Quiet {} text
  outside : Quotes.readAll {} text = {}

theorem Inert.of_absent {text : List Char} (dollar : '$' ∉ text) (single : '\'' ∉ text)
    (double : '"' ∉ text)
    : Inert text where
  quiet := .of_no_dollar {} dollar
  outside := by
    simp [Quotes.readAll_eq_parity, List.count_eq_zero_of_not_mem single,
      List.count_eq_zero_of_not_mem double]

theorem Inert.identifier {name : List Char} (single : '\'' ∉ name)
    : Inert (Quoted.encode '"' name) where
  quiet := .identifier rfl name
  outside := by
    simp [Quotes.readAll_eq_parity, Quoted.count_encode, List.count_eq_zero_of_not_mem single]

theorem Inert.literal {content : List Char} (double : '"' ∉ content)
    : Inert (Quoted.encode '\'' content) where
  quiet := .literal rfl content
  outside := by
    simp [Quotes.readAll_eq_parity, Quoted.count_encode, List.count_eq_zero_of_not_mem double]

/-- An inert text in front is copied, and what follows is renumbered on its own. -/
theorem Inert.shiftAll_scan_append {front : List Char} (inert : Inert front) (offset : Nat)
    (back : List Char)
    : shiftAll offset (scan (front ++ back))
        = (shiftAll offset (scan back)).map (front ++ ·) := by
  rw [scan, scanFrom_append _ _ _ _ (.inl inert.quiet.closed), inert.quiet.copied, inert.outside,
    shiftAll_append, shiftAll_plain]
  cases found : shiftAll offset (scanFrom {} none back) <;> simp [scan, found] <;> rfl

/-- A text without placeholders stays as it is. -/
theorem scan_of_numbers_eq_nil {text : String} (absent : numbers text = [])
    : scan text.toList = text.toList.map .plain := by
  have plain : ∀ piece ∈ scan text.toList, ∃ c, piece = .plain c := by
    intro piece member
    cases piece with
    | plain c => exact ⟨c, rfl⟩
    | run digits =>
        have := List.filterMap_eq_nil_iff.mp absent _ member
        contradiction
  have pieces (found : List Piece) (plain : ∀ piece ∈ found, ∃ c, piece = .plain c)
      : found = (found.flatMap Piece.text).map .plain := by
    induction found with
    | nil => rfl
    | cons piece rest ih =>
        obtain ⟨c, rfl⟩ := plain piece (by simp)
        have later := ih fun other member => plain other (by simp [member])
        rw [List.flatMap_cons, List.map_append, ← later]
        rfl
  have all := pieces _ plain
  rwa [scan_text] at all

end Placeholder

-----------------------------------------------------------------------------------------
-- Outlines that are copied
-----------------------------------------------------------------------------------------

/-- The part is written as inert text in every layout. -/
def Draft.Part.Inert (part : Draft.Part) : Prop :=
  ∀ layout depth, Placeholder.Inert (part.write layout depth).toList

/-- A text that begins with something other than a digit, so that no placeholder goes on in it. -/
def Seals (content : String) : Prop :=
  ∃ c rest, content.toList = c :: rest ∧ c.isDigit = false

namespace Outline

/-- All parts of the outline are copied. Where text comes from elsewhere, it ends outside of quotes
and what follows seals it.
-/
inductive Steady : Outline → Prop
  | nil : Steady []
  | part {part rest} (inert : part.Inert) (behind : Steady rest) : Steady (.part part :: rest)
  | sorting {text next rest} (outside : Quotes.readAll {} text.toList = {})
    (absent : numbers text = []) (seals : Seals next)
    (behind : Steady (.part (.text next) :: rest))
    : Steady (.part (.text text) :: .part (.text next) :: rest)
  | inquiry {inquiry next rest} (seals : Seals next)
    (behind : Steady (.part (.text next) :: rest))
    : Steady (.inquiry inquiry :: .part (.text next) :: rest)

theorem Steady.append {front back : Outline} (first : front.Steady) (second : back.Steady)
    : Steady (front ++ back) := by
  induction first with
  | nil => exact second
  | part inert _ ih => exact .part inert ih
  | sorting outside absent seals _ ih => exact .sorting outside absent seals ih
  | inquiry seals _ ih => exact .inquiry seals ih

/-- The characters of a draft that starts at a depth. -/
abbrev characters (layout : Layout) (depth : Nat) (draft : Draft) : List Char :=
  draft.spell (fun depth part => (part.write layout depth).toList) depth

/-- Nothing that follows a placeholder goes on with it where the text is sealed. -/
theorem head?_characters_seals (layout : Layout) (depth : Nat) (rest : Draft) {next : String}
    (seals : Seals next)
    : ∀ c ∈ (characters layout depth (.text next :: rest)).head?, c.isDigit = false := by
  obtain ⟨first, others, spelled, noDigit⟩ := seals
  have begins
      : characters layout depth (.text next :: rest)
          = first :: (others ++ characters layout depth rest) := by
    change next.toList ++ _ = _
    rw [spelled]
    rfl
  rw [begins]
  rintro c ⟨⟩
  exact noDigit

/-- Renumbering a steady outline renumbers the texts that are filled in. By induction over the
outline: every other text is copied, and no placeholder goes on behind a text that is filled in.
-/
theorem Steady.shiftAll_fill {outline : Outline} (steady : outline.Steady) (layout : Layout)
    (depth offset : Nat) {texts : List String}
    (fits : outline.inquiries.length = texts.length)
    (outside : ∀ text ∈ texts, Quotes.readAll {} text.toList = {})
    : shiftAll offset (scan (characters layout depth (outline.fill texts)))
        = ((texts.mapM (renumber · offset)).mapError String.toList).map fun shifted =>
            characters layout depth (outline.fill shifted) := by
  induction steady generalizing depth texts with
  | nil =>
      obtain rfl : texts = [] := by simpa [inquiries] using fits.symm
      rfl
  | @part part rest inert _ ih =>
      have later := ih (part.depthAfter depth) fits outside
      have text := inert layout depth
      change shiftAll offset
        (scan (_ ++ characters layout (part.depthAfter depth) (fill rest texts))) = _
      rw [text.shiftAll_scan_append, later]
      cases texts.mapM (renumber · offset) <;> rfl
  | @sorting text next rest settled absent seals _ ih =>
      have later := ih depth fits outside
      have apart := head?_characters_seals layout depth (fill rest texts) seals
      change shiftAll offset (scan (characters layout depth (.text next :: fill rest texts))) = _
        at later
      change shiftAll offset
        (scan (text.toList ++ characters layout depth (.text next :: fill rest texts))) = _
      rw [shiftAll_scan_append settled offset (.inr apart), scan_of_numbers_eq_nil absent,
        shiftAll_plain, later]
      cases texts.mapM (renumber · offset) <;> rfl
  | @inquiry inquiry next rest seals _ ih =>
      cases texts with
      | nil => simp [inquiries] at fits
      | cons text texts =>
          have fewer : (inquiries (.part (.text next) :: rest)).length = texts.length := by
            simpa [inquiries] using fits
          have later := ih depth fewer fun other member => outside other (by simp [member])
          have apart := head?_characters_seals layout depth (fill rest texts) seals
          change shiftAll offset (scan (characters layout depth (.text next :: fill rest texts)))
            = _ at later
          change shiftAll offset
            (scan (text.toList ++ characters layout depth (.text next :: fill rest texts))) = _
          rw [shiftAll_scan_append (outside text (by simp)) offset (.inr apart), later,
            List.mapM_cons, renumber]
          cases shiftAll offset (scan text.toList) with
          | error digits =>
              change Except.error digits = Except.error (String.ofList digits).toList
              rw [String.toList_ofList]
          | ok shifted =>
              cases texts.mapM (renumber · offset) with
              | error digits => rfl
              | ok others =>
                  change Except.ok (shifted ++ _) = Except.ok ((String.ofList shifted).toList ++ _)
                  rw [String.toList_ofList]
                  rfl

/-- A steady outline is renumbered by renumbering the texts that are filled in. -/
theorem Steady.renumber_write {outline : Outline} (steady : outline.Steady) (layout : Layout)
    (offset : Nat) {texts : List String} (fits : outline.inquiries.length = texts.length)
    (outside : ∀ text ∈ texts, Quotes.readAll {} text.toList = {})
    : renumber (Draft.write layout (outline.fill texts)) offset
        = (texts.mapM (renumber · offset)).map fun shifted =>
            Draft.write layout (outline.fill shifted) := by
  have moved := steady.shiftAll_fill layout 0 offset fits outside
  rw [renumber, Draft.toList_write, moved]
  cases texts.mapM (renumber · offset) with
  | error digits =>
      change Except.error (String.ofList digits.toList) = Except.error digits
      rw [String.ofList_toList]
  | ok shifted =>
      change Except.ok (String.ofList (characters layout 0 (fill outline shifted))) = Except.ok _
      rw [characters, ← Draft.toList_write, String.ofList_toList]

end Outline

-----------------------------------------------------------------------------------------
-- Texts that have been spliced in
-----------------------------------------------------------------------------------------

/-- Spliced texts that are all renumbered by a further offset are those that are spliced in behind
so many more arguments.
-/
theorem Spliced.mapM_renumber_eq_ok_iff {offset : Nat} {fragments : List Subquery}
    {texts : List String} (spliced : Spliced offset fragments texts) (further : Nat)
    (shifted : List String)
    : texts.mapM (renumber · further) = .ok shifted
        ↔ Spliced (offset + further) fragments shifted := by
  rw [mapM_eq_ok_iff]
  induction spliced generalizing shifted with
  | nil =>
      constructor
      · rintro ⟨⟩
        exact .nil
      · rintro ⟨⟩
        exact .nil
  | @cons offset fragment sql fragments texts renumbered _ ih =>
      have again (text : String)
          : renumber sql further = .ok text
            ↔ renumber fragment.sql (offset + further) = .ok text := by
        rw [renumber_renumbered renumbered]
        cases renumber fragment.sql (offset + further) <;> simp [Except.mapError]
      have order : offset + fragment.arguments.length + further
          = offset + further + fragment.arguments.length := by omega
      constructor
      · intro both
        cases both with
        | cons first others => exact .cons ((again _).mp first) (order ▸ (ih _).mp others)
      · intro both
        cases both with
        | cons first others => exact .cons ((again _).mpr first) ((ih _).mpr (order ▸ others))

/-- Spliced texts end outside of quotes where their answers do. -/
theorem Spliced.outside {offset : Nat} {fragments : List Subquery} {texts : List String}
    (spliced : Spliced offset fragments texts)
    (outside : ∀ fragment ∈ fragments, Quotes.readAll {} fragment.sql.toList = {})
    : ∀ text ∈ texts, Quotes.readAll {} text.toList = {} := by
  induction spliced with
  | nil => simp
  | @cons offset fragment sql fragments texts renumbered _ ih =>
      have later := ih fun other member => outside other (by simp [member])
      intro text member
      rcases List.mem_cons.mp member with rfl | behind
      · rw [Quotes.readAll_renumbered {} renumbered]
        exact outside fragment (by simp)
      · exact later text behind

end NestedSelect
