import Mathlib.Data.List.Forall2
import NestedSelect.Statement.Rendering
/-!
Statements with open sources. The outline of a relation tree is its statement before any provider
is asked: parts in writing order, and an inquiry wherever a provider has to fill in the source.
A rendering asks the inquiries in the order of the outline, and each answer is spliced in with its
placeholders moved up by the arguments of the answers before it.
-/

namespace NestedSelect

/-- A provider with the condition it is asked about, for the relation at a path. -/
structure Inquiry where
  path : String
  provider : Provider
  condition : String

/-- The source that the answer to an inquiry makes, where `offset` arguments come before it. -/
def Inquiry.writing (inquiry : Inquiry) : Writing := fun offset =>
  match inquiry.provider inquiry.condition with
  | .error cause => .error (.subqueryFailed inquiry.path cause)
  | .ok subquery =>
    match Placeholder.renumber subquery.sql offset with
    | .error digits => .error (.malformedPlaceholder digits)
    | .ok sql => .ok ⟨[.text sql], subquery.arguments⟩

/-- A part that the tree alone decides, or a source that is still open. -/
inductive Outline.Item where
  | part (part : Draft.Part)
  | inquiry (inquiry : Inquiry)

/-- The items of a statement in writing order. -/
abbrev Outline := List Outline.Item

namespace Outline

/-- Parts without an open source. -/
def ofDraft (draft : Draft) : Outline :=
  draft.map .part

/-- The inquiries of an outline in writing order. -/
def inquiries : Outline → List Inquiry
  | [] => []
  | .part _ :: rest => inquiries rest
  | .inquiry inquiry :: rest => inquiry :: inquiries rest

/-- The statement that comes of an outline when its inquiries are asked in writing order. -/
def writing : Outline → Writing
  | [] => .parts []
  | .part part :: rest => .parts [part] ++ writing rest
  | .inquiry inquiry :: rest => inquiry.writing ++ writing rest

/-- The draft that has one text in place of each open source. -/
def fill : Outline → List String → Draft
  | [], _ => []
  | .part part :: rest, texts => part :: fill rest texts
  | .inquiry _ :: rest, text :: texts => .text text :: fill rest texts
  | .inquiry _ :: rest, [] => fill rest []

end Outline

/-- What holds of each part of some drafts holds of each part of their list with commas in between,
if it holds of the comma.
-/
theorem Draft.forall_mem_commaSeparated {holds : Part → Prop} {drafts : List Draft}
    (comma : holds (.text ", ")) (each : ∀ draft ∈ drafts, ∀ part ∈ draft, holds part)
    : ∀ part ∈ List.intercalate [.text ", "] drafts, holds part := by
  induction drafts with
  | nil => simp
  | cons first others ih =>
      have head := each first (by simp)
      have tail := ih fun draft member => each draft (by simp [member])
      cases others with
      | nil => simpa only [List.intercalate_singleton] using head
      | cons next others =>
          rw [List.intercalate_cons_cons]
          exact List.forall_mem_append.mpr
            ⟨List.forall_mem_append.mpr ⟨head, List.forall_mem_singleton.mpr comma⟩, tail⟩

-----------------------------------------------------------------------------------------
-- The outline of a relation tree
-----------------------------------------------------------------------------------------

namespace TableUse

/-- The open source of a use with a provider. -/
def inquiries (use : TableUse) (condition : String) : List Inquiry :=
  match use.spec.subquery with
  | none => []
  | some provider => [⟨use.path, provider, condition⟩]

/-- The rows of a use, which are a scan of its table or an open source. -/
def rowsOutline (options : RenderOptions) (use : TableUse) (correlation : Option Correlation)
    : Outline :=
  match use.spec.subquery with
  | none => .ofDraft (use.scan options correlation)
  | some provider =>
    [.inquiry ⟨use.path, provider, Correlation.conditionText use.aliasName correlation⟩]

/-- The rows of a use as an item of a from clause. -/
def sourceOutline (options : RenderOptions) (use : TableUse)
    (correlation : Option Correlation) : Outline :=
  .ofDraft [.text "("] ++ use.rowsOutline options correlation
    ++ .ofDraft [.text ") as ", .identifier use.aliasName]

end TableUse

namespace Relation

mutual

/-- The select over a relation and all that is joined to it. -/
def outline (options : RenderOptions) (correlation : Option Correlation) : Relation → Outline
  | ⟨use, one, many⟩ =>
    .ofDraft
        ([.text "select", .line .deeper] ++ selectList options ⟨use, one, many⟩ correlation
          ++ [.line .shallower, .text "from "])
      ++ use.sourceOutline options correlation
      ++ outlineOne options use.aliasName one
      ++ outlineMany options use.aliasName many
      ++ .ofDraft (grouping use.aliasName correlation)

/-- The joins of the one-relations of a parent. -/
def outlineOne (options : RenderOptions) (parent : String) : List (Joined Relation) → Outline
  | [] => []
  | ⟨keys, ⟨use, one, many⟩⟩ :: rest =>
    .ofDraft (joinHead use)
      ++ use.sourceOutline options none
      ++ .ofDraft (onClause use.aliasName keys.referencedKey parent keys.foreignKey)
      ++ outlineOne options use.aliasName one
      ++ outlineMany options use.aliasName many
      ++ outlineOne options parent rest

/-- The joins of the many-relations of a parent. -/
def outlineMany (options : RenderOptions) (parent : String) : List (Joined Relation) → Outline
  | [] => []
  | ⟨keys, relation⟩ :: rest =>
    .ofDraft (joinHead relation.use ++ [.text "(", .line .deeper])
      ++ relation.outline options (some ⟨parent, keys.foreignKey, keys.referencedKey⟩)
      ++ .ofDraft
        ([.line .shallower, .text ") ", .identifier relation.use.aliasName]
          ++ onClause relation.use.aliasName keys.foreignKey parent keys.referencedKey)
      ++ outlineMany options parent rest

end

mutual

/-- The inquiries of a relation tree in pre-order: those of the relation itself, then those of its
one-relations, then those of its many-relations. Only a many-relation has a condition.
-/
def inquiries (condition : String) : Relation → List Inquiry
  | ⟨use, one, many⟩ =>
    use.inquiries condition ++ inquiriesOfOne one ++ inquiriesOfMany use.aliasName many

/-- The inquiries of one-relations and of all relations below them. -/
def inquiriesOfOne : List (Joined Relation) → List Inquiry
  | [] => []
  | ⟨_, relation⟩ :: rest => relation.inquiries "" ++ inquiriesOfOne rest

/-- The inquiries of many-relations and of all relations below them. -/
def inquiriesOfMany (parent : String) : List (Joined Relation) → List Inquiry
  | [] => []
  | ⟨keys, relation⟩ :: rest =>
    relation.inquiries
        (quoteIdentifier relation.use.aliasName ++ "." ++ quoteIdentifier keys.foreignKey ++ " = "
          ++ (quoteIdentifier parent ++ "." ++ quoteIdentifier keys.referencedKey))
      ++ inquiriesOfMany parent rest

end

end Relation

-----------------------------------------------------------------------------------------
-- Renderings run their outlines
-----------------------------------------------------------------------------------------

namespace Writing

theorem nil_append (writing : Writing) : parts [] ++ writing = writing := by
  funext offset
  change append (parts []) writing offset = writing offset
  simp only [append, parts, bind, Except.bind, List.length_nil, Nat.add_zero]
  cases writing offset <;> simp [pure, Except.pure]

theorem append_nil (writing : Writing) : writing ++ parts [] = writing := by
  funext offset
  change append writing (parts []) offset = writing offset
  simp only [append, parts, bind, Except.bind]
  cases writing offset <;> simp [pure, Except.pure]

/-- Stretches may be put together in any grouping: the offset of the last one is the same. -/
theorem append_assoc (first second third : Writing)
    : first ++ second ++ third = first ++ (second ++ third) := by
  funext offset
  change append (append first second) third offset = append first (append second third) offset
  simp only [append, bind, Except.bind]
  cases first offset with
  | error error => rfl
  | ok front =>
      simp only [pure, Except.pure]
      cases second (offset + front.arguments.length) with
      | error error => rfl
      | ok middle =>
          simp only [List.length_append, Nat.add_assoc]
          cases third (offset + (front.arguments.length + middle.arguments.length)) with
          | error error => rfl
          | ok back => simp

theorem parts_append (front back : Draft)
    : (parts (front ++ back) : Writing) = parts front ++ parts back := by
  funext offset
  rfl

end Writing

namespace Outline

theorem writing_append (front back : Outline)
    : (front ++ back).writing = front.writing ++ back.writing := by
  induction front with
  | nil => exact (Writing.nil_append _).symm
  | cons item rest ih =>
      cases item with
      | part part => rw [List.cons_append, writing, writing, ih, Writing.append_assoc]
      | inquiry inquiry => rw [List.cons_append, writing, writing, ih, Writing.append_assoc]

theorem writing_ofDraft (draft : Draft) : (ofDraft draft).writing = .parts draft := by
  induction draft with
  | nil => rfl
  | cons part rest ih =>
      change Writing.parts [part] ++ (ofDraft rest).writing = _
      rw [ih, ← Writing.parts_append]
      rfl

end Outline

theorem TableUse.source_eq_writing (options : RenderOptions) (use : TableUse)
    (correlation : Option Correlation)
    : use.source options correlation = (use.sourceOutline options correlation).writing := by
  have rows : use.rows options correlation = (use.rowsOutline options correlation).writing := by
    unfold TableUse.rows TableUse.rowsOutline
    cases use.spec.subquery with
    | none => exact (Outline.writing_ofDraft _).symm
    | some provider =>
        change _ = Inquiry.writing _ ++ Writing.parts []
        rw [Writing.append_nil]
        rfl
  simp only [source, sourceOutline, Outline.writing_append, Outline.writing_ofDraft, rows]

namespace Relation

mutual

/-- A select is written by its outline, by induction over the relation tree. -/
theorem select_eq_writing (options : RenderOptions) (correlation : Option Correlation)
    (relation : Relation)
    : relation.select options correlation
        = (relation.outline options correlation).writing := by
  cases relation with
  | mk use one many =>
      simp only [select, outline, Outline.writing_append, Outline.writing_ofDraft,
        TableUse.source_eq_writing, joinOne_eq_writing options use.aliasName one,
        joinMany_eq_writing options use.aliasName many]

theorem joinOne_eq_writing (options : RenderOptions) (parent : String)
    (joins : List (Joined Relation))
    : joinOne options parent joins = (outlineOne options parent joins).writing := by
  match joins with
  | [] => rfl
  | ⟨keys, ⟨use, one, many⟩⟩ :: rest =>
      simp only [joinOne, outlineOne, Outline.writing_append, Outline.writing_ofDraft,
        TableUse.source_eq_writing, joinOne_eq_writing options use.aliasName one,
        joinMany_eq_writing options use.aliasName many, joinOne_eq_writing options parent rest]

theorem joinMany_eq_writing (options : RenderOptions) (parent : String)
    (joins : List (Joined Relation))
    : joinMany options parent joins = (outlineMany options parent joins).writing := by
  match joins with
  | [] => rfl
  | ⟨keys, relation⟩ :: rest =>
      simp only [joinMany, outlineMany, Outline.writing_append, Outline.writing_ofDraft,
        select_eq_writing options _ relation, joinMany_eq_writing options parent rest]

end

end Relation

-----------------------------------------------------------------------------------------
-- The inquiries of an outline
-----------------------------------------------------------------------------------------

namespace Outline

theorem inquiries_append (front back : Outline)
    : (front ++ back).inquiries = front.inquiries ++ back.inquiries := by
  induction front with
  | nil => rfl
  | cons item rest ih =>
      cases item with
      | part part => exact ih
      | inquiry inquiry => exact congrArg (inquiry :: ·) ih

theorem inquiries_ofDraft (draft : Draft) : (ofDraft draft).inquiries = [] := by
  induction draft with
  | nil => rfl
  | cons part rest ih => exact ih

end Outline

/-- A source asks the provider of its use about its condition. -/
theorem TableUse.inquiries_sourceOutline (options : RenderOptions) (use : TableUse)
    (correlation : Option Correlation)
    : (use.sourceOutline options correlation).inquiries
        = use.inquiries (Correlation.conditionText use.aliasName correlation) := by
  have rows
      : (use.rowsOutline options correlation).inquiries
          = use.inquiries (Correlation.conditionText use.aliasName correlation) := by
    unfold rowsOutline TableUse.inquiries
    cases use.spec.subquery with
    | none => exact Outline.inquiries_ofDraft _
    | some provider => rfl
  simp [sourceOutline, Outline.inquiries_append, Outline.inquiries_ofDraft, rows]

namespace Relation

mutual

/-- A statement asks its inquiries in the pre-order of the relation tree, by induction over the
tree.
-/
theorem inquiries_outline (options : RenderOptions) (correlation : Option Correlation)
    (relation : Relation)
    : (relation.outline options correlation).inquiries
        = relation.inquiries
            (Correlation.conditionText relation.use.aliasName correlation) := by
  match relation with
  | ⟨use, one, many⟩ =>
      simp only [outline, inquiries, Outline.inquiries_append, Outline.inquiries_ofDraft,
        TableUse.inquiries_sourceOutline, inquiries_outlineOne options use.aliasName one,
        inquiries_outlineMany options use.aliasName many, List.nil_append, List.append_nil]

/-- The joins of one-relations ask without a condition, one relation after another. -/
theorem inquiries_outlineOne (options : RenderOptions) (parent : String)
    (joins : List (Joined Relation))
    : (outlineOne options parent joins).inquiries = inquiriesOfOne joins := by
  match joins with
  | [] => rfl
  | ⟨keys, ⟨use, one, many⟩⟩ :: rest =>
      simp only [outlineOne, inquiriesOfOne, inquiries, Outline.inquiries_append,
        Outline.inquiries_ofDraft, TableUse.inquiries_sourceOutline,
        inquiries_outlineOne options use.aliasName one,
        inquiries_outlineMany options use.aliasName many,
        inquiries_outlineOne options parent rest, List.nil_append, List.append_nil,
        Correlation.conditionText]

/-- The joins of many-relations ask about the conditions that tie them to their parent. -/
theorem inquiries_outlineMany (options : RenderOptions) (parent : String)
    (joins : List (Joined Relation))
    : (outlineMany options parent joins).inquiries = inquiriesOfMany parent joins := by
  match joins with
  | [] => rfl
  | ⟨keys, relation⟩ :: rest =>
      simp only [outlineMany, inquiriesOfMany, Outline.inquiries_append,
        Outline.inquiries_ofDraft, inquiries_outline options _ relation,
        inquiries_outlineMany options parent rest, List.nil_append, List.append_nil,
        Correlation.conditionText, quoteColumn]

end

end Relation

-----------------------------------------------------------------------------------------
-- What a successful run gathers
-----------------------------------------------------------------------------------------

/-- The answers of some inquiries, one for each and in the same order. -/
def Answers (inquiries : List Inquiry) (fragments : List Subquery) : Prop :=
  List.Forall₂ (fun inquiry fragment => inquiry.provider inquiry.condition = .ok fragment)
    inquiries fragments

/-- The texts that are spliced in for some answers where `offset` arguments come before the first.
Each answer is renumbered by the arguments of all that come before it.
-/
inductive Spliced : Nat → List Subquery → List String → Prop
  | nil {offset} : Spliced offset [] []
  | cons {offset fragment sql fragments texts}
    (renumbered : Placeholder.renumber fragment.sql offset = .ok sql)
    (behind : Spliced (offset + fragment.arguments.length) fragments texts)
    : Spliced offset (fragment :: fragments) (sql :: texts)

/-- An inquiry makes a source exactly if it is answered by a text that can be renumbered. -/
theorem Inquiry.writing_eq_ok_iff (inquiry : Inquiry) (offset : Nat) (stretch : Stretch)
    : inquiry.writing offset = .ok stretch
      ↔ ∃ fragment sql,
          inquiry.provider inquiry.condition = .ok fragment
          ∧ Placeholder.renumber fragment.sql offset = .ok sql
          ∧ stretch = ⟨[.text sql], fragment.arguments⟩ := by
  unfold Inquiry.writing
  cases inquiry.provider inquiry.condition with
  | error cause => simp
  | ok fragment =>
      cases renumbered : Placeholder.renumber fragment.sql offset with
      | error digits => simp [renumbered]
      | ok sql => simp [renumbered, eq_comm]

namespace Writing

/-- Two stretches in a row succeed exactly if the first does and the second does behind it. -/
theorem append_eq_ok_iff (first second : Writing) (offset : Nat) (stretch : Stretch)
    : (first ++ second) offset = .ok stretch
      ↔ ∃ front back,
          first offset = .ok front
          ∧ second (offset + front.arguments.length) = .ok back
          ∧ stretch = ⟨front.parts ++ back.parts, front.arguments ++ back.arguments⟩ := by
  change append first second offset = .ok stretch ↔ _
  simp only [append, bind, Except.bind]
  cases first offset with
  | error error => simp
  | ok front =>
      cases later : second (offset + front.arguments.length) with
      | error error => simp [later]
      | ok back => simp [later, pure, Except.pure, eq_comm]

end Writing

/-- An outline is written exactly if all its inquiries are answered by texts that can be
renumbered in turn, and then the texts fill the open sources and the arguments follow the answers.
By induction over the outline, with the offset as it stands before each item.
-/
theorem Outline.writing_eq_ok_iff (outline : Outline) (offset : Nat) (stretch : Stretch)
    : outline.writing offset = .ok stretch
      ↔ ∃ fragments texts,
          Answers outline.inquiries fragments
          ∧ Spliced offset fragments texts
          ∧ stretch = ⟨outline.fill texts, fragments.flatMap (·.arguments)⟩ := by
  induction outline generalizing offset stretch with
  | nil =>
      constructor
      · intro h
        have same : (⟨[], []⟩ : Stretch) = stretch := Except.ok.inj h
        exact ⟨[], [], .nil, .nil, same.symm⟩
      · rintro ⟨fragments, texts, answers, spliced, rfl⟩
        cases answers
        rfl
  | cons item rest ih =>
      cases item with
      | part part =>
          rw [writing, Writing.append_eq_ok_iff]
          constructor
          · rintro ⟨front, back, first, later, rfl⟩
            cases first
            obtain ⟨fragments, texts, answers, spliced, rfl⟩ := (ih _ _).mp later
            exact ⟨fragments, texts, answers, spliced, rfl⟩
          · rintro ⟨fragments, texts, answers, spliced, rfl⟩
            exact ⟨⟨[part], []⟩, _, rfl,
              (ih _ _).mpr ⟨fragments, texts, answers, spliced, rfl⟩, rfl⟩
      | inquiry inquiry =>
          -- The answer's arguments move the offset of all that stands behind it.
          rw [writing, Writing.append_eq_ok_iff]
          constructor
          · rintro ⟨front, back, first, later, rfl⟩
            obtain ⟨fragment, sql, answer, renumbered, rfl⟩ :=
              (Inquiry.writing_eq_ok_iff _ _ _).mp first
            obtain ⟨fragments, texts, answers, spliced, rfl⟩ := (ih _ _).mp later
            exact ⟨fragment :: fragments, sql :: texts, .cons answer answers,
              .cons renumbered spliced, rfl⟩
          · rintro ⟨fragments, texts, answers, spliced, rfl⟩
            cases answers with
            | @cons _ fragment _ others answer answers =>
                cases spliced with
                | @cons _ _ sql _ texts renumbered spliced =>
                    exact ⟨_, _,
                      (Inquiry.writing_eq_ok_iff _ _ _).mpr
                        ⟨fragment, sql, answer, renumbered, rfl⟩,
                      (ih _ _).mpr ⟨others, texts, answers, spliced, rfl⟩, rfl⟩

/-- A relation tree is rendered behind `offset` arguments exactly if all its inquiries are answered
by texts that can be renumbered in turn. The statement is then the outline of the tree with these
texts filled in, and its arguments are those of the answers in pre-order.
-/
theorem Relation.renderAfter_eq_ok_iff (relation : Relation) (options : RenderOptions)
    (offset : Nat) (rendered : Rendered)
    : relation.renderAfter options offset = .ok rendered
      ↔ ∃ fragments texts,
          Answers (relation.inquiries "") fragments
          ∧ Spliced offset fragments texts
          ∧ rendered
            = ⟨Draft.write options.layout ((relation.outline options none).fill texts),
                fragments.flatMap (·.arguments)⟩ := by
  have inquiries : (relation.outline options none).inquiries = relation.inquiries "" :=
    inquiries_outline options none relation
  have written := Outline.writing_eq_ok_iff (relation.outline options none) offset
  rw [← select_eq_writing, inquiries] at written
  unfold renderAfter
  cases selected : relation.select options none offset with
  | error error =>
      refine ⟨fun h => by contradiction, ?_⟩
      rintro ⟨fragments, texts, answers, spliced, rfl⟩
      have success := (written _).mpr ⟨fragments, texts, answers, spliced, rfl⟩
      rw [selected] at success
      contradiction
  | ok stretch =>
      constructor
      · intro h
        have same := Except.ok.inj h
        obtain ⟨fragments, texts, answers, spliced, rfl⟩ := (written stretch).mp selected
        exact ⟨fragments, texts, answers, spliced, same.symm⟩
      · rintro ⟨fragments, texts, answers, spliced, rfl⟩
        have success := (written _).mpr ⟨fragments, texts, answers, spliced, rfl⟩
        rw [selected, Except.ok.injEq] at success
        subst success
        rfl

end NestedSelect
