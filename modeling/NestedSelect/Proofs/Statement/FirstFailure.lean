import Mathlib.Data.Nat.Find
import NestedSelect.Proofs.Statement.Outline
/-!
Failures of a rendering. Each inquiry of a statement may fail, either because its provider does or
because its answer cannot be renumbered behind the arguments of the answers before it. A rendering
fails exactly if some inquiry does, and reports the first that does.
-/

namespace NestedSelect

-----------------------------------------------------------------------------------------
-- Failing inquiries
-----------------------------------------------------------------------------------------

namespace Inquiry

/-- What the provider returns. -/
def answer (inquiry : Inquiry) : Except String Subquery :=
  inquiry.provider inquiry.condition

/-- How many arguments the provider returns. -/
def argumentCount (inquiry : Inquiry) : Nat :=
  match inquiry.answer with
  | .error _ => 0
  | .ok fragment => fragment.arguments.length

/-- The inquiry fails with an error where `offset` arguments come before it. -/
inductive Fails (inquiry : Inquiry) (offset : Nat) : QueryError → Prop
  | unanswered {cause : String} (failed : inquiry.answer = .error cause)
    : Fails inquiry offset (.subqueryFailed inquiry.path cause)
  | malformed {fragment : Subquery} {digits : String} (answered : inquiry.answer = .ok fragment)
    (stuck : Placeholder.renumber fragment.sql offset = .error digits)
    : Fails inquiry offset (.malformedPlaceholder digits)

/-- An inquiry makes no source exactly if it fails. -/
theorem writing_eq_error_iff (inquiry : Inquiry) (offset : Nat) (error : QueryError)
    : inquiry.writing offset = .error error ↔ inquiry.Fails offset error := by
  unfold writing
  constructor
  · intro failure
    cases answered : inquiry.provider inquiry.condition with
    | error cause =>
        rw [answered] at failure
        obtain rfl := Except.error.inj failure
        exact .unanswered answered
    | ok fragment =>
        cases renumbered : Placeholder.renumber fragment.sql offset with
        | error digits =>
            simp only [answered, renumbered, Except.error.injEq] at failure
            exact failure ▸ .malformed answered renumbered
        | ok sql => simp [answered, renumbered] at failure
  · rintro (failed | ⟨answered, stuck⟩)
    · rw [show inquiry.provider inquiry.condition = _ from failed]
    · simp [show inquiry.provider inquiry.condition = _ from answered, stuck]

/-- What does not fail makes a source, with as many arguments as the provider returns. -/
theorem exists_writing (inquiry : Inquiry) (offset : Nat)
    (sound : ∀ error, ¬inquiry.Fails offset error)
    : ∃ stretch,
        inquiry.writing offset = .ok stretch
        ∧ stretch.arguments.length = inquiry.argumentCount := by
  cases written : inquiry.writing offset with
  | error error =>
      exact absurd ((inquiry.writing_eq_error_iff offset error).mp written) (sound error)
  | ok stretch =>
      obtain ⟨fragment, sql, answered, _, rfl⟩ :=
        (inquiry.writing_eq_ok_iff offset stretch).mp written
      refine ⟨_, rfl, ?_⟩
      rw [argumentCount, answer, answered]

end Inquiry

-----------------------------------------------------------------------------------------
-- First failures
-----------------------------------------------------------------------------------------

/-- How many arguments the providers of some inquiries return. -/
def argumentTotal : List Inquiry → Nat
  | [] => 0
  | first :: rest => first.argumentCount + argumentTotal rest

/-- The inquiry at an index fails, behind `offset` arguments and those that the providers before it
return.
-/
def FailsAt (offset : Nat) (inquiries : List Inquiry) (index : Nat) (error : QueryError) : Prop :=
  ∃ inquiry,
    inquiries[index]? = some inquiry
    ∧ inquiry.Fails (offset + argumentTotal (inquiries.take index)) error

/-- Some inquiry fails with the error, and none before it fails. -/
def FailsFirst (offset : Nat) (inquiries : List Inquiry) (error : QueryError) : Prop :=
  ∃ index,
    FailsAt offset inquiries index error
    ∧ ∀ earlier < index, ∀ other, ¬FailsAt offset inquiries earlier other

section

variable (offset : Nat) (first : Inquiry) (rest : List Inquiry) (error : QueryError)

@[simp]
theorem failsAt_zero : FailsAt offset (first :: rest) 0 error ↔ first.Fails offset error := by
  simp [FailsAt, argumentTotal]

@[simp]
theorem failsAt_succ (index : Nat)
    : FailsAt offset (first :: rest) (index + 1) error
      ↔ FailsAt (offset + first.argumentCount) rest index error := by
  simp [FailsAt, argumentTotal, Nat.add_assoc]

/-- The first failure is that of the first inquiry, or the first behind an inquiry that does not
fail.
-/
theorem failsFirst_cons
    : FailsFirst offset (first :: rest) error
      ↔ first.Fails offset error
        ∨ (∀ other, ¬first.Fails offset other)
          ∧ FailsFirst (offset + first.argumentCount) rest error := by
  constructor
  · rintro ⟨index, failure, least⟩
    cases index with
    | zero => exact .inl ((failsAt_zero ..).mp failure)
    | succ index =>
        refine .inr ⟨fun other failed => ?_, index, (failsAt_succ ..).mp failure, ?_⟩
        · exact least 0 (Nat.succ_pos index) other ((failsAt_zero ..).mpr failed)
        · intro earlier before other failed
          exact least (earlier + 1) (Nat.succ_lt_succ before) other ((failsAt_succ ..).mpr failed)
  · rintro (failed | ⟨sound, index, failure, least⟩)
    · exact ⟨0, (failsAt_zero ..).mpr failed, fun _ before => absurd before (Nat.not_lt_zero _)⟩
    · refine ⟨index + 1, (failsAt_succ ..).mpr failure, fun earlier before other failed => ?_⟩
      cases earlier with
      | zero => exact sound other ((failsAt_zero ..).mp failed)
      | succ earlier =>
          exact least earlier (Nat.lt_of_succ_lt_succ before) other ((failsAt_succ ..).mp failed)

end

/-- Where some inquiry fails, one of them fails first. -/
theorem exists_failsFirst_iff (offset : Nat) (inquiries : List Inquiry)
    : (∃ error, FailsFirst offset inquiries error)
      ↔ ∃ index error, FailsAt offset inquiries index error := by
  classical
  constructor
  · rintro ⟨error, index, failure, _⟩
    exact ⟨index, error, failure⟩
  · intro some
    obtain ⟨error, failure⟩ := Nat.find_spec some
    refine ⟨error, Nat.find some, failure, fun earlier before other failed => ?_⟩
    exact Nat.find_min some before ⟨other, failed⟩

-----------------------------------------------------------------------------------------
-- Renderings
-----------------------------------------------------------------------------------------

/-- Two stretches in a row fail exactly if the first does or the second does behind it. -/
theorem Writing.append_eq_error_iff (first second : Writing) (offset : Nat) (error : QueryError)
    : (first ++ second) offset = .error error
      ↔ first offset = .error error
        ∨ ∃ front,
          first offset = .ok front
          ∧ second (offset + front.arguments.length) = .error error := by
  change append first second offset = .error error ↔ _
  simp only [append, bind, Except.bind]
  cases first offset with
  | error other => simp
  | ok front =>
      cases later : second (offset + front.arguments.length) with
      | error other => simp [later]
      | ok back => simp [later, pure, Except.pure]

/-- An outline fails with its first inquiry that fails. By induction over the outline, with the
offset as it stands before each item.
-/
theorem Outline.writing_eq_error_iff (outline : Outline) (offset : Nat) (error : QueryError)
    : outline.writing offset = .error error ↔ FailsFirst offset outline.inquiries error := by
  induction outline generalizing offset with
  | nil =>
      refine iff_of_false (fun failure => by contradiction) ?_
      rintro ⟨index, ⟨inquiry, found, _⟩, _⟩
      simp [inquiries] at found
  | cons item rest ih =>
      cases item with
      | part part =>
          rw [writing, Writing.append_eq_error_iff, inquiries, ← ih]
          simp [Writing.parts]
      | inquiry inquiry =>
          rw [writing, Writing.append_eq_error_iff, inquiries, failsFirst_cons,
            inquiry.writing_eq_error_iff]
          refine or_congr_right ?_
          constructor
          · rintro ⟨front, written, later⟩
            have sound (other : QueryError) : ¬inquiry.Fails offset other := by
              rw [← inquiry.writing_eq_error_iff, written]
              simp
            obtain ⟨same, again, count⟩ := inquiry.exists_writing offset sound
            obtain rfl := Except.ok.inj (written.symm.trans again)
            exact ⟨sound, (ih _).mp (count ▸ later)⟩
          · rintro ⟨sound, later⟩
            obtain ⟨front, written, count⟩ := inquiry.exists_writing offset sound
            exact ⟨front, written, (ih _).mpr (count ▸ later)⟩

theorem Relation.render_eq_error_iff (relation : Relation) (options : RenderOptions)
    (error : QueryError)
    : relation.render options = .error error ↔ FailsFirst 0 (relation.inquiries "") error := by
  have asked : (relation.outline options none).inquiries = relation.inquiries "" :=
    inquiries_outline options none relation
  rw [← asked, ← Outline.writing_eq_error_iff, ← select_eq_writing, render, renderAfter]
  cases relation.select options none 0 <;> simp [bind, Except.bind, pure, Except.pure]

/-- The same paths are asked about, and the same is answered for each. -/
def SameAnswers (left right : List Inquiry) : Prop :=
  left.map (fun inquiry => (inquiry.path, inquiry.answer))
    = right.map (fun inquiry => (inquiry.path, inquiry.answer))

theorem Inquiry.fails_iff_of_answer {left right : Inquiry} (paths : left.path = right.path)
    (answers : left.answer = right.answer) (offset : Nat) (error : QueryError)
    : left.Fails offset error ↔ right.Fails offset error := by
  constructor
  · rintro (failed | ⟨answered, stuck⟩)
    · exact paths ▸ .unanswered (answers ▸ failed)
    · exact .malformed (answers ▸ answered) stuck
  · rintro (failed | ⟨answered, stuck⟩)
    · exact paths ▸ .unanswered (answers ▸ failed)
    · exact .malformed (answers ▸ answered) stuck

/-- The answers alone decide what fails first, by induction over the inquiries. -/
theorem SameAnswers.failsFirst_iff {left right : List Inquiry} (same : SameAnswers left right)
    (offset : Nat) (error : QueryError)
    : FailsFirst offset left error ↔ FailsFirst offset right error := by
  induction left generalizing right offset with
  | nil =>
      obtain rfl : right = [] := List.map_eq_nil_iff.mp same.symm
      rfl
  | cons first rest ih =>
      cases right with
      | nil => simp [SameAnswers] at same
      | cons other others =>
          obtain ⟨head, tail⟩ := List.cons.inj same
          obtain ⟨paths, answers⟩ := Prod.mk.inj head
          have count : first.argumentCount = other.argumentCount := by
            rw [Inquiry.argumentCount, Inquiry.argumentCount, answers]
          have here := Inquiry.fails_iff_of_answer paths answers offset
          simp only [failsFirst_cons, here, count, ih tail]

/-- A rendering fails exactly if some inquiry fails behind the arguments that the providers before
it return, and its error is that of the first inquiry in pre-order that does. Nothing else about the
tree or the options has a say in it: trees of which the providers give the same answers at the same
paths fail with the same errors under all options.
-/
theorem render_reports_first_failure (relation : Relation) (options : RenderOptions)
    : ((∃ error, relation.render options = .error error)
          ↔ ∃ index error, FailsAt 0 (relation.inquiries "") index error)
      ∧ (∀ error,
          relation.render options = .error error
          ↔ FailsFirst 0 (relation.inquiries "") error)
      ∧ ∀ (variant : Relation) (variantOptions : RenderOptions),
          SameAnswers (relation.inquiries "") (variant.inquiries "")
          → ∀ error,
              relation.render options = .error error
              ↔ variant.render variantOptions = .error error := by
  refine ⟨?_, relation.render_eq_error_iff options, fun variant variantOptions same error => ?_⟩
  · simp only [relation.render_eq_error_iff, exists_failsFirst_iff]
  · rw [relation.render_eq_error_iff, variant.render_eq_error_iff, same.failsFirst_iff]

/-- A table whose rows come from a provider, joined at a path. -/
def providedUse (path aliasName : String) (provider : Provider) : TableUse where
  path := path
  aliasName := aliasName
  table := "user"
  primaryKey := none
  spec := { subquery := some provider }
  fields := []

/-- Users with two arguments. The placeholder of their tracks is too large behind these, and their
albums fail.
-/
def stuckTracks (aliasName : String) : Relation :=
  let users := providedUse "" aliasName fun _ => .ok ⟨"select $2, $1", [.int 5, .int 6]⟩
  let tracks :=
    providedUse "tracks" (aliasName ++ ".tracks") fun _ =>
      .ok ⟨"select $18446744073709551614", []⟩
  let albums := providedUse "albums" (aliasName ++ ".albums") fun _ => .error "no albums"
  ⟨users, [⟨⟨"tracks", "track_id", "id"⟩, ⟨tracks, [], []⟩⟩],
    [⟨⟨"albums", "user_id", "id"⟩, ⟨albums, [], []⟩⟩]⟩

/-- The tracks are reported and not the albums, whatever the users are called and in each layout. -/
theorem render_reports_first_failure_of_tracks
    : (∀ error, ¬FailsAt 0 ((stuckTracks "user").inquiries "") 0 error)
      ∧ FailsAt 0 ((stuckTracks "user").inquiries "") 2 (.subqueryFailed "albums" "no albums")
      ∧ SameAnswers ((stuckTracks "user").inquiries "") ((stuckTracks "fan").inquiries "")
      ∧ (stuckTracks "user").render {} = .error (.malformedPlaceholder "18446744073709551614")
      ∧ (stuckTracks "fan").render { layout := .pretty }
        = .error (.malformedPlaceholder "18446744073709551614") := by
  have first (error : QueryError) : ¬FailsAt 0 ((stuckTracks "user").inquiries "") 0 error := by
    rintro ⟨inquiry, found, failed⟩
    obtain rfl := Option.some.inj found
    cases failed with
    | unanswered impossible => contradiction
    | malformed answered stuck =>
        obtain rfl := Except.ok.inj answered
        contradiction
  have second
      : FailsAt 0 ((stuckTracks "user").inquiries "") 1
          (.malformedPlaceholder "18446744073709551614") :=
    ⟨_, rfl, .malformed rfl rfl⟩
  have third
      : FailsAt 0 ((stuckTracks "user").inquiries "") 2 (.subqueryFailed "albums" "no albums") :=
    ⟨_, rfl, .unanswered rfl⟩
  have same : SameAnswers ((stuckTracks "user").inquiries "") ((stuckTracks "fan").inquiries "") :=
    rfl
  obtain ⟨_, reports, unaffected⟩ := render_reports_first_failure (stuckTracks "user") {}
  have failure := (reports _).mpr
    ⟨1, second, fun earlier before error => Nat.lt_one_iff.mp before ▸ first error⟩
  exact ⟨first, third, same, failure, (unaffected (stuckTracks "fan") _ same _).mp failure⟩

end NestedSelect
