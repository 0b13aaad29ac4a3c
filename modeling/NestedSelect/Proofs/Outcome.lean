import Mathlib.Data.List.Forall2
import NestedSelect.Relation.Trace
/-!
Outcomes and violations. A computation that stops at its first failure is described by the list of
everything that is wrong, in the order in which it looks: it succeeds where the list is empty, and
reports the head of the list otherwise.
-/

namespace NestedSelect

variable {α β : Type}

-----------------------------------------------------------------------------------------
-- Lists in step
-----------------------------------------------------------------------------------------

/-- Of two lists in step, each member of the first has a partner in the second. -/
theorem partner_of_mem_left {related : α → β → Prop} {items : List α} {values : List β}
    (inStep : List.Forall₂ related items values) {item : α} (member : item ∈ items)
    : ∃ value ∈ values, related item value := by
  induction inStep with
  | nil => contradiction
  | @cons first second _ _ head _ ih =>
      rcases List.mem_cons.mp member with rfl | behind
      · exact ⟨second, by simp, head⟩
      · obtain ⟨value, inside, partner⟩ := ih behind
        exact ⟨value, List.mem_cons_of_mem _ inside, partner⟩

/-- Of two lists in step, each member of the second has a partner in the first. -/
theorem partner_of_mem_right {related : α → β → Prop} {items : List α} {values : List β}
    (inStep : List.Forall₂ related items values) {value : β} (member : value ∈ values)
    : ∃ item ∈ items, related item value :=
  partner_of_mem_left inStep.flip member

/-- Lists in step are in step with the same lists, if members in step have the same partners. -/
theorem forall₂_iff_of_inStep {γ : Type} {first : α → γ → Prop} {second : β → γ → Prop}
    {items : List α} {others : List β}
    (inStep
      : List.Forall₂ (fun item other => ∀ value, first item value ↔ second other value) items
          others)
    (values : List γ)
    : List.Forall₂ first items values ↔ List.Forall₂ second others values := by
  induction inStep generalizing values with
  | nil => simp
  | cons head _ ih => cases values <;> simp [head, ih]

-----------------------------------------------------------------------------------------
-- Computations in a row
-----------------------------------------------------------------------------------------

/-- A step succeeds behind another one exactly if both do in turn. -/
theorem bind_eq_ok_iff {ε : Type} (first : Except ε α) (next : α → Except ε β) (result : β)
    : first >>= next = .ok result ↔ ∃ value, first = .ok value ∧ next value = .ok result := by
  cases first with
  | error error => simp [bind, Except.bind]
  | ok value => simp [bind, Except.bind]

/-- A step fails behind another one exactly if one of them does in turn. -/
theorem bind_eq_error_iff {ε : Type} (first : Except ε α) (next : α → Except ε β) (error : ε)
    : first >>= next = .error error
      ↔ first = .error error ∨ ∃ value, first = .ok value ∧ next value = .error error := by
  cases first with
  | error found => simp [bind, Except.bind]
  | ok value => simp [bind, Except.bind]

/-- What an error is wrapped in has no influence on success. -/
theorem mapError_eq_ok_iff {ε ε' : Type} (wrap : ε → ε') (outcome : Except ε α) (value : α)
    : outcome.mapError wrap = .ok value ↔ outcome = .ok value := by
  cases outcome with
  | error error => simp [Except.mapError]
  | ok found => simp [Except.mapError]

/-- What an error is wrapped in has no influence on what is computed. -/
theorem toOption_mapError {ε ε' : Type} (wrap : ε → ε') (outcome : Except ε α)
    : (outcome.mapError wrap).toOption = outcome.toOption := by
  cases outcome <;> rfl

theorem eq_ok_of_toOption {ε : Type} {outcome : Except ε α} {value : α}
    (success : outcome.toOption = some value) : outcome = .ok value := by
  cases outcome with
  | error error => cases success
  | ok found =>
      cases success
      rfl

/-- Computations in a row succeed with the values that they succeed with one by one. -/
theorem mapM_eq_ok_iff {ε : Type} (compute : α → Except ε β) (items : List α) (values : List β)
    : items.mapM compute = .ok values
      ↔ List.Forall₂ (fun item value => compute item = .ok value) items values := by
  induction items generalizing values with
  | nil =>
      constructor
      · intro success
        obtain rfl : [] = values := Except.ok.inj success
        exact .nil
      · intro none
        cases none
        rfl
  | cons item rest ih =>
      rw [List.mapM_cons]
      constructor
      · intro success
        cases first : compute item with
        | error error => simp [first, bind, Except.bind] at success
        | ok value =>
            cases later : rest.mapM compute with
            | error error => simp [first, later, bind, Except.bind] at success
            | ok others =>
                rw [first, later] at success
                obtain rfl : value :: others = values := Except.ok.inj success
                exact .cons first ((ih others).mp later)
      · intro all
        cases all with
        | cons first later =>
            rw [first, (ih _).mpr later]
            rfl

/-- Computations in a row succeed exactly if each of them does. -/
theorem exists_mapM_eq_ok_iff {ε : Type} (compute : α → Except ε β) (items : List α)
    : (∃ values, items.mapM compute = .ok values)
      ↔ ∀ item ∈ items, ∃ value, compute item = .ok value := by
  simp only [mapM_eq_ok_iff]
  constructor
  · rintro ⟨values, inStep⟩ item member
    obtain ⟨value, -, computed⟩ := partner_of_mem_left inStep member
    exact ⟨value, computed⟩
  · intro each
    induction items with
    | nil => exact ⟨[], .nil⟩
    | cons item rest ih =>
        obtain ⟨value, computed⟩ := each item (by simp)
        obtain ⟨values, inStep⟩ := ih fun other member => each other (List.mem_cons_of_mem _ member)
        exact ⟨value :: values, .cons computed inStep⟩

/-- The error of computations in a row is that of one of them. -/
theorem error_of_mapM {ε : Type} {compute : α → Except ε β} {items : List α} {error : ε}
    (failure : items.mapM compute = .error error)
    : ∃ item ∈ items, compute item = .error error := by
  induction items with
  | nil => cases failure
  | cons item rest ih =>
      rw [List.mapM_cons, bind_eq_error_iff] at failure
      rcases failure with here | ⟨value, -, behind⟩
      · exact ⟨item, by simp, here⟩
      · rcases (bind_eq_error_iff _ _ _).mp behind with later | ⟨values, -, never⟩
        · obtain ⟨other, member, fails⟩ := ih later
          exact ⟨other, List.mem_cons_of_mem _ member, fails⟩
        · cases never

-----------------------------------------------------------------------------------------
-- Outcomes without their traces
-----------------------------------------------------------------------------------------

namespace Traced

/-- The events of a computation have no influence on the outcome of the next. -/
theorem outcome_bind (first : Traced α) (next : α → Traced β)
    : (first >>= next).outcome = first.outcome >>= fun value => (next value).outcome := by
  change (first.andThen next).outcome = _
  unfold andThen
  cases first.outcome <;> rfl

/-- The outcomes of several computations in a row, by induction over what is left of them. -/
theorem outcome_mapM (compute : α → Traced β) (items : List α)
    : (items.mapM compute).outcome = items.mapM fun item => (compute item).outcome := by
  have loop (done : List β)
      : (List.mapM.loop compute items done).outcome
          = List.mapM.loop (fun item => (compute item).outcome) items done := by
    induction items generalizing done with
    | nil => rfl
    | cons item rest ih =>
        rw [List.mapM.loop, outcome_bind, List.mapM.loop]
        exact congrArg _ (funext fun value => ih (value :: done))
  exact loop []

end Traced

-----------------------------------------------------------------------------------------
-- First violations
-----------------------------------------------------------------------------------------

/-- The outcome is a success where nothing is violated, and the first violation otherwise. -/
def Reports {ε : Type} (outcome : Except ε α) (violations : List ε) : Prop :=
  match outcome with
  | .ok _ => violations = []
  | .error error => violations.head? = some error

namespace Reports

variable {ε : Type} {outcome : Except ε α} {violations : List ε}

theorem exists_ok_iff (reports : Reports outcome violations)
    : (∃ value, outcome = .ok value) ↔ violations = [] := by
  cases outcome with
  | ok value => exact ⟨fun _ => reports, fun _ => ⟨value, rfl⟩⟩
  | error error =>
      have first : violations.head? = some error := reports
      constructor
      · rintro ⟨value, success⟩
        contradiction
      · rintro rfl
        contradiction

theorem eq_error_iff (reports : Reports outcome violations) (error : ε)
    : outcome = .error error ↔ violations.head? = some error := by
  cases outcome with
  | ok value =>
      obtain rfl : violations = [] := reports
      simp
  | error found =>
      have first : violations.head? = some found := reports
      rw [first]
      simp

/-- What is violated by a later step comes behind what is violated by an earlier one. The later
step only counts where the earlier one succeeds.
-/
theorem bind {next : α → Except ε β} {later : List ε}
    (first : Reports outcome violations)
    (second : ∀ value, outcome = .ok value → Reports (next value) later)
    : Reports (outcome >>= next) (violations ++ later) := by
  cases outcome with
  | ok value =>
      obtain rfl : violations = [] := first
      exact second value rfl
  | error error =>
      have found : violations.head? = some error := first
      change (violations ++ later).head? = some error
      rw [List.head?_append, found]
      rfl

/-- A later step that always succeeds violates nothing. -/
theorem bind_ok {next : α → Except ε β} (first : Reports outcome violations)
    (succeeds : ∀ value, ∃ result, next value = .ok result)
    : Reports (outcome >>= next) violations := by
  cases outcome with
  | ok value =>
      obtain ⟨result, success⟩ := succeeds value
      change Reports (next value) violations
      rw [success]
      exact first
  | error error => exact first

/-- Several steps in a row violate what each of them does, one after another. -/
theorem mapM {compute : α → Except ε β} {violations : α → List ε}
    {items : List α} (each : ∀ item ∈ items, Reports (compute item) (violations item))
    : Reports (items.mapM compute) (items.flatMap violations) := by
  induction items with
  | nil => rfl
  | cons item rest ih =>
      have later := ih fun other member => each other (List.mem_cons_of_mem _ member)
      rw [List.mapM_cons, List.flatMap_cons]
      exact (each item (by simp)).bind fun value _ => later.bind_ok fun values => ⟨_, rfl⟩

end Reports

end NestedSelect
