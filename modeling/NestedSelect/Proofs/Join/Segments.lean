import Mathlib.Data.List.Infix
import NestedSelect.Join.Tree
/-!
Cutting text at dots. Some texts with a dot in front of each can be told apart from other ones up to
the dots within the texts: what counts are the pieces of all of them.
-/

namespace NestedSelect

/-- There is at least one piece, which is all of a text without dots. -/
theorem exists_splitDots_eq_cons (text : List Char)
    : ∃ first others, splitDots text = first :: others := by
  cases text with
  | nil => exact ⟨[], [], rfl⟩
  | cons c rest =>
      rw [splitDots]
      split
      · exact ⟨[], splitDots rest, rfl⟩
      · split
        · exact ⟨_, _, rfl⟩
        · exact ⟨[c], [], rfl⟩

/-- A dot between two texts is a cut of its own. -/
theorem splitDots_append_dot (front back : List Char)
    : splitDots (front ++ '.' :: back) = splitDots front ++ splitDots back := by
  induction front with
  | nil => simp [splitDots]
  | cons c rest ih =>
      obtain ⟨first, others, pieces⟩ := exists_splitDots_eq_cons rest
      rw [List.cons_append, splitDots, splitDots, ih, pieces]
      by_cases dot : c = '.' <;> simp [dot]

theorem splitDots_of_no_dot {text : List Char} (plain : '.' ∉ text)
    : splitDots text = [text] := by
  induction text with
  | nil => rfl
  | cons c rest ih =>
      obtain ⟨first, later⟩ := not_or.mp fun inside => plain (List.mem_cons.mpr inside)
      rw [splitDots, if_neg (Ne.symm first), ih later]

/-- A dot and a text are the pieces of the text with a dot in front of each. -/
theorem flatMap_dot_splitDots (text : List Char)
    : (splitDots text).flatMap ('.' :: ·) = '.' :: text := by
  induction text with
  | nil => rfl
  | cons c rest ih =>
      obtain ⟨first, others, pieces⟩ := exists_splitDots_eq_cons rest
      rw [pieces, List.flatMap_cons, List.cons_append] at ih
      rw [splitDots, pieces]
      by_cases dot : c = '.'
      · rw [if_pos dot, List.flatMap_cons, List.flatMap_cons, List.cons_append, List.nil_append,
          List.cons_append, ih, dot]
      · rw [if_neg dot, List.flatMap_cons, List.cons_append, List.cons_append,
          (List.cons.inj ih).2]

/-- Some texts with a dot in front of each are cut into the pieces of all of them, behind an empty
first piece. By induction over the texts.
-/
theorem splitDots_flatMap_dot (texts : List (List Char))
    : splitDots (texts.flatMap ('.' :: ·)) = [] :: texts.flatMap splitDots := by
  have behind (text : List Char)
      : splitDots (text ++ texts.flatMap ('.' :: ·))
        = splitDots text ++ texts.flatMap splitDots := by
    induction texts generalizing text with
    | nil => simp
    | cons next rest ih =>
        rw [List.flatMap_cons, List.flatMap_cons, List.cons_append, splitDots_append_dot, ih]
  simpa [splitDots] using behind []

/-- Names with a dot in front of each read the same exactly if they are cut into the same pieces. -/
theorem flatMap_dot_eq_iff (left right : List String)
    : left.flatMap (fun name => '.' :: name.toList)
          = right.flatMap (fun name => '.' :: name.toList)
        ↔ left.flatMap segments = right.flatMap segments := by
  have dotted (names : List String)
      : names.flatMap (fun name => '.' :: name.toList)
        = (names.map String.toList).flatMap ('.' :: ·) := by
    rw [List.flatMap_map]
  have pieces (names : List String)
      : names.flatMap segments
        = ((names.map String.toList).flatMap splitDots).map String.ofList := by
    rw [List.flatMap_map, List.map_flatMap]
    rfl
  -- The text and the pieces of it determine each other.
  have text (names : List String)
      : (names.map String.toList).flatMap ('.' :: ·)
        = ((names.map String.toList).flatMap splitDots).flatMap ('.' :: ·) := by
    rw [List.flatMap_assoc]
    exact congrArg (List.flatMap · _) (funext fun name => (flatMap_dot_splitDots name).symm)
  rw [dotted, dotted, pieces, pieces, List.map_inj_right fun _ _ => String.ofList_inj.mp]
  constructor
  · intro same
    have cut := congrArg splitDots same
    rw [splitDots_flatMap_dot, splitDots_flatMap_dot] at cut
    exact (List.cons.inj cut).2
  · intro same
    rw [text left, text right, same]

/-- Names without dots are their own pieces. -/
theorem flatMap_segments_of_no_dots {names : List String}
    (plain : ∀ name ∈ names, '.' ∉ name.toList)
    : names.flatMap segments = names := by
  induction names with
  | nil => rfl
  | cons name rest ih =>
      rw [List.flatMap_cons, ih fun other member => plain other (List.mem_cons_of_mem _ member),
        segments, splitDots_of_no_dot (plain name (by simp))]
      simp

-----------------------------------------------------------------------------------------
-- Paths and their segments
-----------------------------------------------------------------------------------------

/-- No piece has a dot. -/
theorem dot_not_mem_of_mem_splitDots {text piece : List Char} (member : piece ∈ splitDots text)
    : '.' ∉ piece := by
  induction text generalizing piece with
  | nil => simp_all [splitDots]
  | cons c rest ih =>
      obtain ⟨first, others, pieces⟩ := exists_splitDots_eq_cons rest
      rw [pieces] at ih
      rw [splitDots, pieces] at member
      by_cases dot : c = '.'
      · rw [if_pos dot] at member
        rcases List.mem_cons.mp member with rfl | behind
        · simp
        · exact ih behind
      · rw [if_neg dot] at member
        rcases List.mem_cons.mp member with rfl | behind
        · rw [List.mem_cons, not_or]
          exact ⟨Ne.symm dot, ih (by simp)⟩
        · exact ih (List.mem_cons_of_mem _ behind)

theorem splitDots_injective {left right : List Char} (same : splitDots left = splitDots right)
    : left = right := by
  have dotted := congrArg (List.flatMap ('.' :: ·)) same
  rw [flatMap_dot_splitDots, flatMap_dot_splitDots] at dotted
  exact (List.cons.inj dotted).2

/-- A path is determined by its segments. -/
theorem segments_inj {left right : String} : segments left = segments right ↔ left = right := by
  constructor
  · intro same
    rw [segments, segments, List.map_inj_right fun _ _ => String.ofList_inj.mp] at same
    exact String.toList_inj.mp (splitDots_injective same)
  · exact congrArg segments

theorem segments_ne_nil (path : String) : segments path ≠ [] := by
  obtain ⟨first, others, pieces⟩ := exists_splitDots_eq_cons path.toList
  simp [segments, pieces]

/-- A path goes on behind another one: the other one and a dot are a prefix of it. -/
def Beyond (path longer : String) : Prop :=
  (path ++ ".").toList <+: longer.toList

instance (path longer : String) : Decidable (Beyond path longer) :=
  inferInstanceAs (Decidable (_ <+: _))

/-- The pieces of a text are those of a longer one in front, exactly if a dot follows in the longer
one.
-/
theorem splitDots_prefix_iff (text longer : List Char)
    : splitDots text <+: splitDots longer ↔ text = longer ∨ text ++ ['.'] <+: longer := by
  constructor
  · rintro ⟨others, split⟩
    have dotted := congrArg (List.flatMap ('.' :: ·)) split
    rw [List.flatMap_append, flatMap_dot_splitDots, flatMap_dot_splitDots] at dotted
    have whole := (List.cons.inj dotted).2
    cases others with
    | nil => exact .inl (by simpa using whole)
    | cons piece behind =>
        refine .inr ⟨piece ++ behind.flatMap ('.' :: ·), ?_⟩
        simpa using whole
  · rintro (rfl | ⟨rest, rfl⟩)
    · exact List.prefix_rfl
    · rw [List.append_assoc, List.singleton_append, splitDots_append_dot]
      exact List.prefix_append _ _

/-- The segments of a path come first in those of another one exactly if the other one is the same
path or goes on behind it.
-/
theorem segments_prefix_iff (path longer : String)
    : segments path <+: segments longer ↔ path = longer ∨ Beyond path longer := by
  have letters
      : segments path <+: segments longer
        ↔ splitDots path.toList <+: splitDots longer.toList :=
    List.prefix_map_iff_of_injective fun _ _ => String.ofList_inj.mp
  rw [letters, splitDots_prefix_iff, Beyond, String.toList_append, String.toList_inj]
  rfl

theorem segments_of_dotless {name : String} (dotless : '.' ∉ name.toList)
    : segments name = [name] := by
  rw [segments, splitDots_of_no_dot dotless]
  simp

theorem segments_dotted {name : String} (dotless : '.' ∉ name.toList) (below : String)
    : segments (name ++ "." ++ below) = name :: segments below := by
  have letters : (name ++ "." ++ below).toList = name.toList ++ '.' :: below.toList := by
    simp [String.toList_append]
  rw [segments, letters, splitDots_append_dot, splitDots_of_no_dot dotless]
  simp [segments]

theorem dot_not_mem_of_mem_segments {path name : String} (member : name ∈ segments path)
    : '.' ∉ name.toList := by
  obtain ⟨piece, inside, rfl⟩ := List.mem_map.mp member
  rw [String.toList_ofList]
  exact dot_not_mem_of_mem_splitDots inside

/-- Behind the first segment of a path the path ends, or a dot follows and then the path of the
other segments.
-/
theorem path_of_segments_eq_cons {path first : String} {rest : List String}
    (cut : segments path = first :: rest)
    : path = first ∧ rest = [] ∨ ∃ below, path = first ++ "." ++ below ∧ rest = segments below := by
  have dotless : '.' ∉ first.toList := dot_not_mem_of_mem_segments (cut ▸ List.mem_cons_self)
  have leads : segments first <+: segments path := by
    rw [segments_of_dotless dotless, cut]
    exact ⟨rest, rfl⟩
  rcases (segments_prefix_iff first path).mp leads with rfl | ⟨behind, split⟩
  · rw [segments_of_dotless dotless] at cut
    exact .inl ⟨rfl, (List.cons.inj cut).2.symm⟩
  · obtain rfl : first ++ "." ++ String.ofList behind = path := by
      rw [← String.toList_inj, ← split]
      simp
    rw [segments_dotted dotless] at cut
    exact .inr ⟨_, rfl, (List.cons.inj cut).2.symm⟩

end NestedSelect
