import NestedSelect.Proofs.Statement.Frame
import NestedSelect.Proofs.Statement.Lines
/-!
Compact and pretty statements. Both have the same lines. The compact one has a blank between any two
of them, and the pretty one starts each on a new line at its own depth.
-/

namespace NestedSelect

-----------------------------------------------------------------------------------------
-- Depths of drafts
-----------------------------------------------------------------------------------------

namespace Draft

/-- No part of a draft that starts at a depth goes `shallower` at depth zero. -/
def HasRoom : Nat → Draft → Prop
  | _, [] => True
  | depth, part :: rest =>
      (part = .line .shallower → 0 < depth) ∧ HasRoom (part.depthAfter depth) rest

/-- The draft returns to the depth it starts at, whatever that is, and never goes below zero. -/
def Level (draft : Draft) : Prop :=
  ∀ depth, draft.depthAfter depth = depth ∧ draft.HasRoom depth

theorem hasRoom_append (depth : Nat) (front back : Draft)
    : HasRoom depth (front ++ back)
        ↔ HasRoom depth front ∧ HasRoom (depthAfter depth front) back := by
  induction front generalizing depth with
  | nil => simp [HasRoom, depthAfter]
  | cons part rest ih => simp [HasRoom, depthAfter, ih, and_assoc]

theorem Unbroken.behind {part : Part} {rest : Draft} (unbroken : Unbroken (part :: rest))
    : Unbroken rest :=
  fun shift member => unbroken shift (List.mem_cons_of_mem _ member)

/-- A part that is no line break is written alike in all layouts and at all depths. -/
theorem Unbroken.head {part : Part} {rest : Draft} (unbroken : Unbroken (part :: rest))
    (layout : Layout) (depth : Nat)
    : part.depthAfter depth = depth
      ∧ part ≠ .line .shallower
      ∧ part.write layout depth = part.write .compact 0 := by
  cases part with
  | line shift => exact absurd List.mem_cons_self (unbroken shift)
  | text content => exact ⟨rfl, nofun, rfl⟩
  | identifier name => exact ⟨rfl, nofun, rfl⟩
  | literal content => exact ⟨rfl, nofun, rfl⟩

theorem Unbroken.depthAfter_eq {draft : Draft} (unbroken : Unbroken draft) (depth : Nat)
    : draft.depthAfter depth = depth := by
  induction draft with
  | nil => rfl
  | cons part rest ih =>
      rw [depthAfter, (unbroken.head .compact depth).1, ih unbroken.behind]

theorem Unbroken.hasRoom {draft : Draft} (unbroken : Unbroken draft) (depth : Nat)
    : draft.HasRoom depth := by
  induction draft with
  | nil => trivial
  | cons part rest ih =>
      obtain ⟨same, other, _⟩ := unbroken.head .compact depth
      rw [HasRoom, same]
      exact ⟨fun line => absurd line other, ih unbroken.behind⟩

theorem Unbroken.texts_eq {draft : Draft} (unbroken : Unbroken draft) (layout : Layout)
    (depth : Nat)
    : draft.texts layout depth = draft.texts .compact 0 := by
  induction draft with
  | nil => rfl
  | cons part rest ih =>
      obtain ⟨same, _, text⟩ := unbroken.head layout depth
      rw [texts, texts, same, text, (unbroken.head .compact 0).1, ih unbroken.behind]

end Draft

-----------------------------------------------------------------------------------------
-- Lines as text
-----------------------------------------------------------------------------------------

namespace Outline

/-- The inquiries of the front take their texts first, and the rest is for those of the back. -/
theorem fill_append_texts (front back : Outline) (texts : List String)
    : (front ++ back).fill texts
        = front.fill texts ++ back.fill (texts.drop front.inquiries.length) := by
  induction front generalizing texts with
  | nil => rfl
  | cons item rest ih =>
      cases item with
      | part part => exact congrArg (part :: ·) (ih texts)
      | inquiry inquiry =>
          cases texts with
          | nil => simpa [fill] using ih []
          | cons text texts => simpa [fill, inquiries] using ih texts

theorem Unbroken.fill {outline : Outline} (unbroken : outline.Unbroken) (texts : List String)
    : (outline.fill texts).Unbroken := by
  induction outline generalizing texts with
  | nil => simp [Outline.fill, Draft.Unbroken]
  | cons item rest ih =>
      have behind : Unbroken rest := fun shift member => unbroken shift (by simp [member])
      cases item with
      | part part =>
          intro shift member
          rcases List.mem_cons.mp member with rfl | later
          · exact unbroken shift (by simp)
          · exact ih behind texts shift later
      | inquiry inquiry =>
          cases texts with
          | nil => exact ih behind []
          | cons text texts =>
              intro shift member
              rcases List.mem_cons.mp member with same | later
              · contradiction
              · exact ih behind texts shift later

end Outline

/-- The text of a line, with one text for each of its inquiries. -/
def Line.text (line : Line) (texts : List String) : String :=
  Draft.write .compact (line.content.fill texts)

/-- The texts of some lines. Each line takes the texts for its own inquiries. -/
def Line.chunks : List Line → List String → List String
  | [], _ => []
  | line :: rest, texts =>
    line.text texts :: chunks rest (texts.drop line.content.inquiries.length)

theorem Line.length_chunks (lines : List Line) (texts : List String)
    : (Line.chunks lines texts).length = lines.length := by
  induction lines generalizing texts with
  | nil => rfl
  | cons line rest ih => simp [chunks, ih]

namespace Outline.OnLines

variable {start final : Nat} {lines : List Line} {outline : Outline}

/-- An outline on lines is written line by line, each behind its break. By induction over the
lines.
-/
theorem join_texts (onLines : OnLines start lines outline final) (layout : Layout)
    (texts : List String)
    : String.join ((outline.fill texts).texts layout start)
        = String.join
            (List.zipWith (· ++ ·) (lines.map fun line => layout.lineBreak line.depth)
              (Line.chunks lines texts)) := by
  induction onLines generalizing texts with
  | nil => rfl
  | @cons depth shift line lines rest final unbroken leads room behind ih =>
      have content := unbroken.fill texts
      have later := ih (texts.drop line.content.inquiries.length)
      have written
          : Draft.texts layout depth (fill (.part (.line shift) :: (line.content ++ rest)) texts)
              = layout.lineBreak line.depth
                :: ((line.content.fill texts).texts .compact 0
                  ++ Draft.texts layout line.depth
                    (rest.fill (texts.drop line.content.inquiries.length))) := by
        rw [fill, fill_append_texts, Draft.texts, Draft.texts_append]
        simp only [Draft.Part.write, Draft.Part.depthAfter, leads, content.texts_eq,
          content.depthAfter_eq]
      rw [written, String.join_cons, String.join_append, later, List.map_cons, Line.chunks,
        List.zipWith_cons_cons, String.join_cons, String.append_assoc]
      rfl

/-- The outline leads to the final depth, and only goes shallower where there is room. -/
theorem depths (onLines : OnLines start lines outline final) (texts : List String)
    : (outline.fill texts).depthAfter start = final ∧ (outline.fill texts).HasRoom start := by
  induction onLines generalizing texts with
  | nil => exact ⟨rfl, trivial⟩
  | @cons depth shift line lines rest final unbroken leads room behind ih =>
      have content := unbroken.fill texts
      obtain ⟨after, roomy⟩ := ih (texts.drop line.content.inquiries.length)
      rw [fill, fill_append_texts, Draft.depthAfter, Draft.HasRoom, Draft.Part.depthAfter, leads,
        Draft.depthAfter_append, Draft.hasRoom_append, content.depthAfter_eq]
      refine ⟨after, fun same => room (Draft.Part.line.inj same), content.hasRoom _, roomy⟩

/-- The lines tell the breaks in front of them, because no two shifts lead from one depth to
another.
-/
theorem unique {other : Outline} (onLines : OnLines start lines outline final)
    (others : OnLines start lines other final)
    : outline = other := by
  induction onLines generalizing other with
  | nil =>
      cases others
      rfl
  | @cons depth shift line lines rest final _ leads room _ ih =>
      cases others with
      | @cons _ shift' _ _ rest' _ _ leads' room' behind' =>
          have same : shift = shift' := by
            cases shift <;> cases shift' <;> simp_all [LineShift.apply] <;> omega
          rw [same, ih behind']

end Outline.OnLines

-----------------------------------------------------------------------------------------
-- Whole statements
-----------------------------------------------------------------------------------------

/-- Text in pieces, with something of its own in front of each piece but the first. -/
theorem join_weave_cons (first : String) (rest breaks : List String)
    (fits : breaks.length = rest.length)
    : String.join (weave (first :: rest) breaks)
        = first ++ String.join (List.zipWith (· ++ ·) breaks rest) := by
  induction rest generalizing first breaks with
  | nil =>
      obtain rfl := List.eq_nil_of_length_eq_zero fits
      simp
  | cons next rest ih =>
      cases breaks with
      | nil => contradiction
      | cons lineBreak breaks =>
          have later := ih next breaks (by simpa using fits)
          rw [weave_cons_cons, String.join_cons, String.join_cons, later, List.zipWith_cons_cons,
            String.join_cons, String.append_assoc]

namespace Relation

/-- The depths of the breaks of a statement, in order. -/
def breakDepths (sequenceColumn : String) (relation : Relation) : List Nat :=
  ((relation.lines sequenceColumn [] none).drop 1).map Line.depth

/-- A statement is its lines with breaks of these depths between them. -/
theorem write_outline (layout : Layout) (sequenceColumn : String) (relation : Relation)
    (texts : List String)
    : Draft.write layout ((relation.outline { layout, sequenceColumn } none).fill texts)
        = String.join
            (weave (Line.chunks (relation.lines sequenceColumn [] none) texts)
              ((relation.breakDepths sequenceColumn).map layout.lineBreak)) := by
  -- The lines are those behind a break in front of the whole statement, which is then taken away.
  have onLines := outline_onLines { layout, sequenceColumn } none relation []
    (show LineShift.keep.apply 0 = _ from rfl) Outline.room_of_keep
  have joined := onLines.join_texts layout texts
  have first
      : ∃ rest,
          relation.lines sequenceColumn [] none
            = ⟨[], false, .ofDraft [.text "select"]⟩ :: rest := by
    cases relation
    exact ⟨_, rfl⟩
  obtain ⟨rest, found⟩ := first
  have counted (later : List String)
      : ((relation.breakDepths sequenceColumn).map layout.lineBreak).length
        = (Line.chunks rest later).length := by
    simp [breakDepths, found, Line.length_chunks]
  rw [found, List.map_cons, Line.chunks, List.zipWith_cons_cons, String.join_cons] at joined
  change String.join (layout.lineBreak 0 :: Draft.texts layout 0 _)
    = layout.lineBreak 0 ++ _ ++ _ at joined
  rw [String.join_cons, String.append_assoc, String.append_right_inj] at joined
  rw [Draft.write, joined, found, Line.chunks, join_weave_cons _ _ _ (counted _), breakDepths,
    found, List.drop_one, List.tail_cons, List.map_map]
  rfl

/-- The select of a many-relation stands one level deeper than the root's, and its items two. -/
example (use : TableUse) (keys : JoinKeys)
    : breakDepths "seq" ⟨use, [], [⟨keys, ⟨use, [], []⟩⟩]⟩ = [1, 0, 0, 1, 2, 2, 1, 1, 0] :=
  rfl

mutual

/-- Every line of a select is inside of as many parentheses as there are nested many-relations at
most.
-/
theorem depth_le (sequenceColumn : String) (within : List TableUse)
    (correlation : Option Correlation) (relation : Relation)
    : ∀ line ∈ relation.lines sequenceColumn within correlation,
        line.depth ≤ within.length + relation.manyDepth + 1 := by
  match relation with
  | ⟨use, one, many⟩ =>
      have ones := depth_le_ofOne sequenceColumn within use.aliasName one
      have manys := depth_le_ofMany sequenceColumn within use.aliasName many
      have items
          : ∀ line ∈ itemLines sequenceColumn within ⟨use, one, many⟩ correlation,
              line.depth = within.length + 1 := by
        cases correlation <;> simp [itemLines, Line.depth]
      have grouped
          : ∀ line ∈ groupingLines within use.aliasName correlation,
              line.depth = within.length := by
        cases correlation <;> simp [groupingLines, Line.depth]
      intro line member
      rw [manyDepth]
      simp only [lines, List.cons_append, List.append_assoc, List.mem_cons, List.mem_append,
        List.nil_append] at member
      rcases member with rfl | inList | rfl | inOne | inMany | last
      · simp [Line.depth]
        omega
      · have := items line inList
        omega
      · simp [Line.depth]
        omega
      · have := ones line inOne
        omega
      · have := manys line inMany
        omega
      · have := grouped line last
        omega

theorem depth_le_ofOne (sequenceColumn : String) (within : List TableUse) (parent : String)
    (joins : List (Joined Relation))
    : ∀ line ∈ linesOfOne sequenceColumn within parent joins,
        line.depth ≤ within.length + manyDepthOfOne joins + 1 := by
  match joins with
  | [] => simp [linesOfOne]
  | ⟨keys, ⟨use, one, many⟩⟩ :: rest =>
      have ones := depth_le_ofOne sequenceColumn within use.aliasName one
      have manys := depth_le_ofMany sequenceColumn within use.aliasName many
      have others := depth_le_ofOne sequenceColumn within parent rest
      intro line member
      rw [manyDepthOfOne, manyDepth]
      simp only [linesOfOne, List.cons_append, List.mem_cons, List.mem_append] at member
      rcases member with rfl | (inOne | inMany) | behind
      · simp [Line.depth]
        omega
      · have := ones line inOne
        omega
      · have := manys line inMany
        omega
      · have := others line behind
        omega

theorem depth_le_ofMany (sequenceColumn : String) (within : List TableUse) (parent : String)
    (joins : List (Joined Relation))
    : ∀ line ∈ linesOfMany sequenceColumn within parent joins,
        line.depth ≤ within.length + manyDepthOfMany joins + 1 := by
  match joins with
  | [] => simp [linesOfMany]
  | ⟨keys, relation⟩ :: rest =>
      have nested := depth_le sequenceColumn (relation.use :: within)
        (some ⟨parent, keys.foreignKey, keys.referencedKey⟩) relation
      have others := depth_le_ofMany sequenceColumn within parent rest
      intro line member
      rw [manyDepthOfMany]
      simp only [linesOfMany, List.cons_append, List.mem_cons, List.mem_append,
        List.not_mem_nil, or_false] at member
      rcases member with rfl | (inside | rfl) | behind
      · simp [Line.depth]
        omega
      · have := nested line inside
        rw [List.length_cons] at this
        omega
      · simp [Line.depth]
        omega
      · have := others line behind
        omega

end

/-- The layout has no influence on what is written, only on how its breaks are. -/
theorem outline_eq_of_layout (layout other : Layout) (sequenceColumn : String)
    (relation : Relation)
    : relation.outline { layout, sequenceColumn } none
        = relation.outline { layout := other, sequenceColumn } none := by
  have first := outline_onLines { layout, sequenceColumn } none relation []
    (show LineShift.keep.apply 0 = _ from rfl) Outline.room_of_keep
  have second := outline_onLines { layout := other, sequenceColumn } none relation []
    (show LineShift.keep.apply 0 = _ from rfl) Outline.room_of_keep
  exact (List.cons.inj (first.unique second)).2

/-- What is written in place of an outline with breaks that return is level. -/
theorem level_of_writing {outline : Outline} {offset : Nat} {stretch : Stretch}
    (written : outline.writing offset = .ok stretch)
    (returns
      : ∀ depth texts,
          (outline.fill texts).depthAfter depth = depth ∧ (outline.fill texts).HasRoom depth)
    : stretch.parts.Level := by
  obtain ⟨fragments, texts, _, _, rfl⟩ := (Outline.writing_eq_ok_iff _ _ _).mp written
  exact fun depth => returns depth texts

/-- A select ends at the depth at which it starts. -/
theorem select_level (options : RenderOptions) (correlation : Option Correlation)
    (relation : Relation) {offset : Nat} {stretch : Stretch}
    (written : relation.select options correlation offset = .ok stretch)
    : stretch.parts.Level := by
  rw [select_eq_writing] at written
  refine level_of_writing written fun depth texts => ?_
  have onLines := outline_onLines options correlation relation
    (List.replicate depth relation.use)
    (show LineShift.keep.apply depth = _ by simp [LineShift.apply]) Outline.room_of_keep
  obtain ⟨after, room⟩ := onLines.depths texts
  rw [List.length_replicate] at after
  exact ⟨after, room.2⟩

/-- The joins of a relation end at the depth at which they start. -/
theorem joins_level (options : RenderOptions) (relation : Relation) {offset : Nat}
    {stretch : Stretch}
    (written
      : (joinOne options relation.use.aliasName relation.one
          ++ joinMany options relation.use.aliasName relation.many) offset = .ok stretch)
    : stretch.parts.Level := by
  rw [joinOne_eq_writing, joinMany_eq_writing, ← Outline.writing_append] at written
  refine level_of_writing written fun depth texts => ?_
  let within := List.replicate depth relation.use
  have onLines :=
    (outlineOne_onLines options relation.use.aliasName relation.one within).append
      (outlineMany_onLines options relation.use.aliasName relation.many within)
  have here : within.length = depth := by simp [within]
  rw [here] at onLines
  exact onLines.depths texts

/-- Whatever the layout, a tree is rendered from the same lines, or fails with the same error. The
compact statement has a blank between any two of them. The pretty one has a line break there and as
many levels of two blanks each as the line behind it is deep: one for each many-relation whose
parentheses are open around the line, and one more for an item of a select list. No line is more
than one level deeper than many-relations are nested. The stretches of a select and of the joins of
a relation return to the depth at which they start, and never go below zero on the way.
-/
theorem layouts_share_lines (relation : Relation) (sequenceColumn : String)
    : let lines := relation.lines sequenceColumn [] none
      let depths := (lines.drop 1).map Line.depth
      ((∃ error,
          relation.render { layout := .compact, sequenceColumn } = .error error
          ∧ relation.render { layout := .pretty, sequenceColumn } = .error error)
        ∨ ∃ (fragments : List Subquery) (texts : List String),
            Answers (relation.inquiries "") fragments
            ∧ Spliced 0 fragments texts
            ∧ relation.render { layout := .compact, sequenceColumn }
              = .ok ⟨String.join (weave (Line.chunks lines texts) (depths.map fun _ => " ")),
                  fragments.flatMap (·.arguments)⟩
            ∧ relation.render { layout := .pretty, sequenceColumn }
              = .ok ⟨String.join
                    (weave (Line.chunks lines texts)
                      (depths.map fun depth => "\n" ++ "".pushn ' ' (2 * depth))),
                  fragments.flatMap (·.arguments)⟩)
      ∧ (∀ line ∈ lines, line.depth ≤ relation.manyDepth + 1)
      ∧ ∀ (options : RenderOptions) (correlation : Option Correlation) (offset : Nat)
          (stretch : Stretch),
          (relation.select options correlation offset = .ok stretch → stretch.parts.Level)
          ∧ ((joinOne options relation.use.aliasName relation.one
                ++ joinMany options relation.use.aliasName relation.many) offset = .ok stretch
            → stretch.parts.Level) := by
  refine ⟨?_, ?_, fun options correlation offset stretch => ⟨?_, ?_⟩⟩
  · have same := relation.outline_eq_of_layout .pretty .compact sequenceColumn
    have written (layout : Layout) := select_eq_writing { layout, sequenceColumn } none relation
    cases selected : (relation.outline { sequenceColumn } none).writing 0 with
    | error error =>
        refine .inl ⟨error, ?_, ?_⟩
        · rw [render, renderAfter, written .compact, selected]
          rfl
        · rw [render, renderAfter, written .pretty, same, selected]
          rfl
    | ok stretch =>
        obtain ⟨fragments, texts, answers, spliced, rfl⟩ :=
          (Outline.writing_eq_ok_iff _ _ _).mp selected
        rw [inquiries_outline] at answers
        refine .inr ⟨fragments, texts, answers, spliced, ?_, ?_⟩
        · exact (renderAfter_eq_ok_iff _ _ _ _).mpr ⟨fragments, texts, answers, spliced,
            by rw [write_outline]; rfl⟩
        · exact (renderAfter_eq_ok_iff _ _ _ _).mpr ⟨fragments, texts, answers, spliced,
            by rw [write_outline]; rfl⟩
  · simpa using relation.depth_le sequenceColumn [] none
  · exact select_level options correlation relation
  · exact joins_level options relation

end Relation

end NestedSelect
