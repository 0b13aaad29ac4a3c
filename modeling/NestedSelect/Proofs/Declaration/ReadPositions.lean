import NestedSelect.Proofs.Declaration.ReaderRuns
/-!
Positions on the way of a reader. What a reader tells the position of stands between where it starts
and where it stops, and a token of its own stands there if something is read behind it.
-/

namespace NestedSelect.Declaration

open Reader

-----------------------------------------------------------------------------------------
-- Places and tokens on the way
-----------------------------------------------------------------------------------------

/-- One of some tokens stands at a position. -/
def Holds (tokens : List Token) (position : Position) : Prop :=
  ∃ token ∈ tokens, token.position = position

namespace Progress

variable {before middle after outer later : Progress} {position : Position}

/-- A position is the place of something that is left at some moment on the way. -/
def Visits (before after : Progress) (position : Position) : Prop :=
  ∃ rest, after.rest <:+ rest ∧ rest <:+ before.rest ∧ place rest = position

/-- At least one token is read on the way. -/
def Advances (before after : Progress) : Prop :=
  ∃ token rest, before.rest = token :: rest ∧ after.rest <:+ rest

/-- A token at the position is read on the way. -/
def Passes (before after : Progress) (position : Position) : Prop :=
  ∃ token rest, token :: rest <:+ before.rest ∧ after.rest <:+ rest ∧ token.position = position

theorem visits_place (suffix : after.rest <:+ before.rest)
    : before.Visits after (place before.rest) :=
  ⟨before.rest, suffix, List.suffix_refl _, rfl⟩

theorem Visits.widen (visits : before.Visits after position) (first : before.rest <:+ outer.rest)
    (last : later.rest <:+ after.rest)
    : outer.Visits later position := by
  obtain ⟨rest, behind, inside, placed⟩ := visits
  exact ⟨rest, last.trans behind, inside.trans first, placed⟩

theorem Passes.widen (passes : before.Passes after position) (first : before.rest <:+ outer.rest)
    (last : later.rest <:+ after.rest)
    : outer.Passes later position := by
  obtain ⟨token, rest, inside, behind, placed⟩ := passes
  exact ⟨token, rest, inside.trans first, last.trans behind, placed⟩

/-- Where something is read behind a place, a token stands there. -/
theorem Visits.passes (visits : before.Visits middle position) (advances : middle.Advances after)
    : before.Passes after position := by
  obtain ⟨rest, ⟨front, whole⟩, inside, placed⟩ := visits
  obtain ⟨token, others, left, behind⟩ := advances
  rw [left] at whole
  cases front with
  | nil =>
      obtain rfl : token :: others = rest := whole
      exact ⟨token, others, inside, behind, placed⟩
  | cons first front =>
      obtain rfl : first :: (front ++ token :: others) = rest := whole
      have inner : others <:+ front ++ token :: others := ⟨front ++ [token], by simp⟩
      exact ⟨first, _, inside, behind.trans inner, placed⟩

/-- A token that is passed is one of those that are read on the way. -/
theorem Passes.holds (passes : before.Passes after position) {own : List Token}
    (whole : before.rest = own ++ after.rest)
    : Holds own position := by
  obtain ⟨token, _, ⟨front, split⟩, ⟨between, rfl⟩, placed⟩ := passes
  have same : own ++ after.rest = front ++ token :: between ++ after.rest := by
    rw [← whole, ← split, List.append_assoc, List.cons_append]
  obtain rfl := List.append_cancel_right same
  exact ⟨token, by simp, placed⟩

end Progress

-----------------------------------------------------------------------------------------
-- What runs come to
-----------------------------------------------------------------------------------------

namespace Reader

section

variable {σ : Type} {step : σ → Reader (Option σ)} (Invariant : σ → Progress → Prop)
  {start : Progress}
  (stays
    : ∀ {state earlier later},
        earlier.Leads later → Invariant state earlier → Invariant state later)
  (goes
    : ∀ {state next earlier later},
        start.Leads earlier → Invariant state earlier
        → (step state).run earlier = .ok (some next, later)
        → Invariant next later)

include stays goes

/-- Whatever each of some steps preserves holds in the end. By induction over the steps, with what
leads from the start to where a step is made.
-/
theorem iterateFor_invariant {times : Nat} {state result : σ} {before after : Progress}
    (leads : start.Leads before) (holds : Invariant state before)
    (ran : (iterateFor step times state).run before = .ok (result, after))
    : Invariant result after := by
  induction times generalizing state before with
  | zero =>
      obtain ⟨rfl, rfl⟩ := (run_pure_eq_ok_iff _ _ _ _).mp ran
      exact holds
  | succ times ih =>
      obtain ⟨next, middle, stepped, behind⟩ := (run_bind_eq_ok_iff _ _ _ _ _).mp ran
      have further := leads_of_run stepped
      cases next with
      | none =>
          obtain ⟨rfl, rfl⟩ := (run_pure_eq_ok_iff _ _ _ _).mp behind
          exact stays further holds
      | some next => exact ih (leads.trans further) (goes leads holds stepped) behind

theorem iterate_invariant {state result : σ} {after : Progress} (holds : Invariant state start)
    (ran : (iterate step state).run start = .ok (result, after))
    : Invariant result after := by
  obtain ⟨_, _, counted, steps⟩ := (run_bind_eq_ok_iff _ _ _ _ _).mp ran
  obtain ⟨rfl, rfl⟩ := (run_look_eq_ok_iff _ _ _ _).mp counted
  exact iterateFor_invariant Invariant stays goes (.refl start) holds steps

end

/-- Whatever a reader reads has a property. -/
def Gives {α : Type} (reader : Reader α) (property : α → Prop) : Prop :=
  ∀ (before after : Progress) (value : α), reader.run before = .ok (value, after) → property value

namespace Gives

variable {α β : Type} {property : α → Prop}

theorem pure {value : α} (holds : property value) : Gives (Pure.pure value) property := by
  intro before after result ran
  obtain ⟨rfl, -⟩ := (run_pure_eq_ok_iff _ _ _ _).mp ran
  exact holds

theorem fail (fault : List Token → Fault) : Gives (Reader.fail fault) property := fun _ _ _ => nofun

theorem bind {first : Reader β} {next : β → Reader α}
    (gives : ∀ value, Gives (next value) property)
    : Gives (first >>= next) property := by
  intro before after result ran
  obtain ⟨value, middle, -, behind⟩ := (run_bind_eq_ok_iff _ _ _ _ _).mp ran
  exact gives value middle after result behind

theorem groupThen {delimiter : Delimiter} {contents : Reader β} {next : β → Reader α}
    (gives : ∀ value, Gives (next value) property)
    : Gives (Declaration.groupThen delimiter contents next) property := by
  intro before after result ran
  change runEnclosed delimiter _ contents next before = _ at ran
  unfold runEnclosed runClosing at ran
  split at ran
  case isFalse => cases ran
  case isTrue =>
    split at ran
    case h_2 => cases ran
    case h_1 value middle _ =>
      split at ran
      case h_2 => cases ran
      case h_1 found reached read =>
        cases ran
        exact gives value _ _ result read

theorem whole {reader : Reader (Except Fault α)}
    (gives : Gives reader fun outcome => ∀ value, outcome = .ok value → property value)
    : Gives (Reader.whole reader) property := by
  intro before after result ran
  exact gives before after _ ((run_whole_eq_ok_iff _ _ _ _).mp ran) result rfl

end Gives

end Reader

end NestedSelect.Declaration
