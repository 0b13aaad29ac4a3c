import NestedSelect.Proofs.Outcome
import NestedSelect.Proofs.Placeholder.PlaceholderRuns
import NestedSelect.Proofs.Statement.Likeness
/-!
Placeholders and arguments of a whole statement. A statement is a fixed frame with one renumbered
answer in each gap, and the arguments are those of the answers in the same order. So a placeholder
reads the argument that its own provider meant, wherever the answer stands.
-/

namespace NestedSelect

-----------------------------------------------------------------------------------------
-- Answers and their arguments
-----------------------------------------------------------------------------------------

/-- How many arguments come before those of the answer at an index. -/
def argumentsBefore : List Subquery → Nat → Nat
  | first :: rest, index + 1 => first.arguments.length + argumentsBefore rest index
  | _, _ => 0

theorem Answers.length_eq {inquiries : List Inquiry} {fragments : List Subquery}
    (answers : Answers inquiries fragments)
    : inquiries.length = fragments.length :=
  List.Forall₂.length_eq answers

/-- Every answer is that of one of the inquiries. -/
theorem Answers.answered {inquiries : List Inquiry} {fragments : List Subquery}
    (answers : Answers inquiries fragments) {fragment : Subquery}
    (member : fragment ∈ fragments)
    : ∃ inquiry ∈ inquiries, inquiry.provider inquiry.condition = .ok fragment :=
  partner_of_mem_right answers member

/-- The answer to an inquiry is one of the answers. -/
theorem Answers.contains {inquiries : List Inquiry} {fragments : List Subquery}
    (answers : Answers inquiries fragments) {inquiry : Inquiry} (member : inquiry ∈ inquiries)
    {fragment : Subquery} (answer : inquiry.provider inquiry.condition = .ok fragment)
    : fragment ∈ fragments := by
  obtain ⟨other, inside, found⟩ := partner_of_mem_left answers member
  obtain rfl := Except.ok.inj (found.symm.trans answer)
  exact inside

/-- Inquiries have no more than one list of answers. -/
theorem Answers.unique {inquiries : List Inquiry} {first second : List Subquery}
    (left : Answers inquiries first) (right : Answers inquiries second)
    : first = second :=
  List.right_unique_forall₂' (fun _ _ _ one other => Except.ok.inj (one.symm.trans other))
    left right

/-- The same texts are spliced in for the same answers. -/
theorem Spliced.unique {offset : Nat} {fragments : List Subquery} {first second : List String}
    (left : Spliced offset fragments first) (right : Spliced offset fragments second)
    : first = second := by
  induction left generalizing second with
  | nil =>
      cases right
      rfl
  | cons renumbered _ ih =>
      cases right with
      | cons otherRenumbered behind =>
          rw [ih behind, Except.ok.inj (renumbered.symm.trans otherRenumbered)]

theorem Spliced.length_eq {offset : Nat} {fragments : List Subquery} {texts : List String}
    (spliced : Spliced offset fragments texts)
    : fragments.length = texts.length := by
  induction spliced with
  | nil => rfl
  | cons _ _ ih => exact congrArg (· + 1) ih

/-- Each text is its answer, renumbered by the arguments before it. By induction over the answers:
the offset of a splice is the running sum of the arguments so far.
-/
theorem Spliced.renumbered {offset : Nat} {fragments : List Subquery} {texts : List String}
    (spliced : Spliced offset fragments texts) {index : Nat} {fragment : Subquery}
    (found : fragments[index]? = some fragment)
    : ∃ text,
        texts[index]? = some text
        ∧ Placeholder.renumber fragment.sql (offset + argumentsBefore fragments index)
          = .ok text := by
  induction spliced generalizing index with
  | nil => simp at found
  | @cons offset first sql fragments texts renumbered behind ih =>
      cases index with
      | zero =>
          obtain rfl : first = fragment := Option.some.inj found
          exact ⟨sql, rfl, renumbered⟩
      | succ index =>
          obtain ⟨text, at_index, moved⟩ := ih found
          refine ⟨text, at_index, ?_⟩
          simpa [argumentsBefore, Nat.add_assoc] using moved

/-- In the arguments of all answers, those of one answer start behind all arguments before it. -/
theorem getElem?_flatMap_arguments {fragments : List Subquery} {index : Nat}
    {fragment : Subquery} (found : fragments[index]? = some fragment) {place : Nat}
    (within : place < fragment.arguments.length)
    : (fragments.flatMap (·.arguments))[argumentsBefore fragments index + place]?
        = fragment.arguments[place]? := by
  induction fragments generalizing index with
  | nil => simp at found
  | cons first rest ih =>
      cases index with
      | zero =>
          obtain rfl : first = fragment := Option.some.inj found
          simp [argumentsBefore, List.getElem?_append_left within]
      | succ index =>
          have later := ih found
          have behind
              : first.arguments.length
                ≤ argumentsBefore (first :: rest) (index + 1) + place := by
            simp [argumentsBefore, Nat.add_assoc]
          rw [List.flatMap_cons, List.getElem?_append_right behind, ← later]
          congr 1
          rw [argumentsBefore]
          omega

-----------------------------------------------------------------------------------------
-- Whole statements
-----------------------------------------------------------------------------------------

namespace Outline

/-- The text of a filled outline is its frame, as texts, with the filled-in texts in the gaps. -/
theorem write_fill (layout : Layout) (outline : Outline) (texts : List String)
    (fits : outline.inquiries.length = texts.length)
    : Draft.write layout (outline.fill texts)
        = String.join
            (weave
              ((outline.frame (fun depth part => (part.write layout depth).toList) 0).map
                String.ofList)
              texts) := by
  have spelled := spell_fill (fun depth part => (part.write layout depth).toList) String.toList
    (fun _ _ => rfl) 0 outline texts fits
  rw [← String.toList_inj, Draft.toList_write, spelled, String.toList_join, List.flatMap,
    map_weave]
  simp [Function.comp_def]

end Outline

/-- All trees that differ at most in what their providers answer have one frame between them. A
statement is this frame with the answers in its gaps, taken in pre-order and renumbered by the
arguments of the answers before them, and its arguments are those of the answers in the same order.
So a placeholder that refers to an argument of its own answer refers to that same argument in the
statement.
-/
theorem render_aligns_placeholders (options : RenderOptions) (relation : Relation)
    : ∃ glue : List String,
        ∀ (variant : Relation) (rendered : Rendered),
          relation.Alike (· = ·) variant
          → variant.render options = .ok rendered
          → ∃ (fragments : List Subquery) (texts : List String),
              Answers (variant.inquiries "") fragments
              ∧ rendered.arguments = fragments.flatMap (·.arguments)
              ∧ glue.length = fragments.length + 1
              ∧ texts.length = fragments.length
              ∧ rendered.sql = String.join (weave glue texts)
              ∧ ∀ index fragment,
                  fragments[index]? = some fragment
                  → ∃ text,
                      texts[index]? = some text
                      ∧ Placeholder.renumber fragment.sql (argumentsBefore fragments index)
                        = .ok text
                      ∧ Placeholder.numbers text
                        = (Placeholder.numbers fragment.sql).map
                          (argumentsBefore fragments index + ·)
                      ∧ ∀ number ∈ Placeholder.numbers fragment.sql,
                          1 ≤ number
                          → number ≤ fragment.arguments.length
                          → ∃ value,
                              fragment.arguments[number - 1]? = some value
                              ∧ rendered.arguments[argumentsBefore fragments index + number - 1]?
                                = some value := by
  refine ⟨((relation.outline options none).frame
    (fun depth part => (part.write options.layout depth).toList) 0).map String.ofList, ?_⟩
  intro variant rendered alike success
  obtain ⟨fragments, texts, answers, spliced, rfl⟩ :=
    (variant.renderAfter_eq_ok_iff options 0 rendered).mp success
  -- The frame is made of parts alone, and those are equal in all trees of the form.
  have unseen (depth : Nat) (first second : Draft.Part)
      (equal : Draft.Part.Alike (· = ·) first second)
      : (first.write options.layout depth).toList = (second.write options.layout depth).toList := by
    cases first <;> cases second <;> simp_all [Draft.Part.Alike]
  have outlines
      : Outline.Alike (· = ·) (relation.outline options none) (variant.outline options none) :=
    Relation.outline_alike (fun _ _ => congrArg (· ++ "_json")) rfl .none relation variant alike
  have frame := outlines.frame_eq _ unseen 0
  have asked : (variant.outline options none).inquiries = variant.inquiries "" :=
    Relation.inquiries_outline options none variant
  have gaps : (variant.outline options none).inquiries.length = fragments.length := by
    rw [asked, answers.length_eq]
  rw [frame]
  refine ⟨fragments, texts, answers, rfl, ?_, spliced.length_eq.symm, ?_, ?_⟩
  · rw [List.length_map, Outline.length_frame, gaps]
  · exact Outline.write_fill options.layout _ texts (gaps.trans spliced.length_eq)
  · intro index fragment found
    obtain ⟨text, at_index, renumbered⟩ := spliced.renumbered found
    rw [Nat.zero_add] at renumbered
    refine ⟨text, at_index, renumbered, ?_, ?_⟩
    · rw [Placeholder.numbers_renumbered renumbered]
      simp only [Nat.add_comm]
    · intro number _ positive bounded
      have within : number - 1 < fragment.arguments.length := by omega
      refine ⟨fragment.arguments[number - 1], List.getElem?_eq_getElem within, ?_⟩
      rw [Nat.add_sub_assoc positive, getElem?_flatMap_arguments found within,
        List.getElem?_eq_getElem within]

/-- Users with two arguments of their own, and the tracks of each user with one. -/
def tracksOfUsers : Relation :=
  let users : TableUse := {
    path := ""
    aliasName := "user"
    table := "user"
    primaryKey := some "id"
    spec := { subquery := some fun _ => .ok ⟨"select $2, $1", [.int 5, .int 6]⟩ }
    fields := []
  }
  let tracks : TableUse := {
    path := "tracks"
    aliasName := "user.tracks"
    table := "track"
    primaryKey := none
    spec := { subquery := some fun _ => .ok ⟨"select $1", [.int 7]⟩ }
    fields := []
  }
  ⟨users, [], [⟨⟨"tracks", "user_id", "id"⟩, ⟨tracks, [], []⟩⟩]⟩

/-- What the providers of users and tracks answer. -/
def answersOfTracks : List Subquery :=
  [⟨"select $2, $1", [.int 5, .int 6]⟩, ⟨"select $1", [.int 7]⟩]

/-- The first placeholder of the tracks refers to the third argument of the statement. -/
theorem render_aligns_placeholders_of_tracks
    : ∃ rendered glue texts,
        tracksOfUsers.render {} = .ok rendered
        ∧ rendered.sql = String.join (weave glue texts)
        ∧ texts[1]? = some "select $3"
        ∧ rendered.arguments[2]? = some (.int 7) := by
  have asked : Answers (tracksOfUsers.inquiries "") answersOfTracks :=
    .cons rfl (.cons rfl .nil)
  have spliced : Spliced 0 answersOfTracks ["select $2, $1", "select $3"] :=
    .cons rfl (.cons rfl .nil)
  have success := (tracksOfUsers.renderAfter_eq_ok_iff {} 0 _).mpr ⟨_, _, asked, spliced, rfl⟩
  have alike : tracksOfUsers.Alike (· = ·) tracksOfUsers := by
    refine ⟨?_, trivial, ⟨rfl, rfl, rfl⟩, ⟨?_, trivial, trivial⟩, trivial⟩
    · exact ⟨rfl, rfl, .some rfl, rfl, rfl, rfl, .nil⟩
    · exact ⟨rfl, rfl, .none, rfl, rfl, rfl, .nil⟩
  obtain ⟨glue, aligned⟩ := render_aligns_placeholders {} tracksOfUsers
  obtain ⟨fragments, texts, answers, _, _, _, sql, renumbered⟩ := aligned _ _ alike success
  obtain rfl := asked.unique answers
  obtain ⟨text, at_tracks, moved, _⟩ := renumbered 1 _ rfl
  have known : Placeholder.renumber "select $1" 2 = .ok "select $3" := rfl
  obtain rfl := Except.ok.inj (known.symm.trans moved)
  exact ⟨_, glue, texts, success, sql, at_tracks, rfl⟩

end NestedSelect
