import NestedSelect.Declaration.Grammar.Complete
import NestedSelect.Proofs.Declaration.ReadPositions
/-!
Positions of types. A type is told to stand where it starts, and where it is a slice, its element is
told to stand inside of it. Nothing but a type in square brackets is ever read as a slice.
-/

namespace NestedSelect.Declaration

open Reader

-----------------------------------------------------------------------------------------
-- Slices
-----------------------------------------------------------------------------------------

/-- A type that is no slice. -/
def TypeForm.IsOther (form : TypeForm) : Prop := ∀ element, form ≠ .slice element

theorem TypeForm.isOther_ofBounds (bounds : List Bound) (hasTrailing : Bool)
    : (TypeForm.ofBounds bounds hasTrailing).IsOther := by
  unfold ofBounds
  split <;> nofun

namespace Grammar

variable {g : Grammar} {allowPlus : Bool}

theorem functionType_isOther : Gives g.functionType TypeForm.IsOther := by
  refine .bind fun _ => .bind fun _ => .bind fun _ => .groupThen fun hasReceiver => ?_
  refine .bind fun _ => .pure ?_
  cases hasReceiver <;> nofun

theorem namedType_isOther (isQuantified : Bool)
    : Gives (g.namedType allowPlus isQuantified) TypeForm.IsOther := by
  refine .bind fun route => ?_
  split
  · exact .pure nofun
  refine .bind fun hasMacro => ?_
  split
  · exact .bind fun _ => .bind fun _ => .pure nofun
  refine .bind fun hasPlus => ?_
  split
  · split
    · exact .bind fun found => .pure (TypeForm.isOther_ofBounds _ _)
    · exact .pure nofun
  · exact .pure nofun

theorem boundsBehind_isOther (first : Bound) : Gives (g.boundsBehind first) TypeForm.IsOther :=
  .bind fun _ => .pure (TypeForm.isOther_ofBounds _ _)

theorem behindParentheses_isOther (types : ParenthesizedTypes)
    : Gives (g.behindParentheses allowPlus types) TypeForm.IsOther := by
  cases types with
  | tuple | lifetimes => exact .pure nofun
  | optional => exact boundsBehind_isOther _
  | single element =>
      refine .bind fun hasPlus => ?_
      split
      · split
        · exact boundsBehind_isOther _
        · exact boundsBehind_isOther _
        · exact .bind fun _ => boundsBehind_isOther _
        · exact .pure nofun
      · exact .pure nofun

/-- Where a fault is found in the end, nothing is given. -/
theorem isOther_of_map {found : Except Fault Unit} {form : TypeForm} (other : form.IsOther)
    : ∀ value, (found.map fun _ => form) = .ok value → value.IsOther := by
  cases found with
  | error fault => nofun
  | ok _ =>
      rintro value ⟨⟩
      exact other

theorem markedObject_isOther : Gives (g.markedObject allowPlus) TypeForm.IsOther := by
  refine .whole (.bind fun _ => .bind fun isStarred => .bind fun found => .pure ?_)
  exact isOther_of_map (by cases isStarred <;> nofun)

theorem abstractType_isOther : Gives (g.abstractType allowPlus) TypeForm.IsOther :=
  .whole (.bind fun _ => .bind fun _ => .pure (isOther_of_map nofun))

theorem quantifiedType_isOther : Gives (g.quantifiedType allowPlus) TypeForm.IsOther := by
  refine .bind fun _ => .bind fun isFunction => ?_
  split
  · exact functionType_isOther
  refine .bind fun isMarked => ?_
  split
  · exact .fail _
  refine .bind fun isNamed => ?_
  split
  · exact namedType_isOther true
  · exact .fail _

theorem pointer_isOther : Gives g.pointer TypeForm.IsOther := by
  refine .bind fun _ => .bind fun isMarked => ?_
  split
  · exact .bind fun _ => .bind fun _ => .pure nofun
  · exact .fail _

theorem reference_isOther : Gives g.reference TypeForm.IsOther :=
  .bind fun _ => .bind fun _ => .bind fun _ => .bind fun _ => .pure nofun

/-- Only between square brackets a type can be a slice, and its element is the type behind the first
one.
-/
theorem exists_of_run_slice {before after : Progress} {element : TypeShape}
    (ran : (g.typeForm allowPlus).run before = .ok (.slice element, after))
    : ∃ middle,
        (g.type true).run (Progress.behind before 1) = .ok (element, middle)
        ∧ after.rest <:+ middle.rest := by
  have not {reader : Reader TypeForm} (gives : Gives reader TypeForm.IsOther) {start : Progress}
      : reader.run start ≠ .ok (.slice element, after) :=
    fun read => gives _ _ _ read element rfl
  obtain ⟨-, ran⟩ | ⟨-, ran⟩ := run_if_sees ran
  · exact absurd ran (not quantifiedType_isOther)
  obtain ⟨-, ran⟩ | ⟨-, ran⟩ := run_if_sees ran
  · exact absurd ran (not (.groupThen behindParentheses_isOther))
  obtain ⟨-, ran⟩ | ⟨-, ran⟩ := run_if_sees ran
  · exact absurd ran (not functionType_isOther)
  obtain ⟨-, ran⟩ | ⟨-, ran⟩ := run_if_sees ran
  · exact absurd ran (not markedObject_isOther)
  obtain ⟨-, ran⟩ | ⟨-, ran⟩ := run_if_sees ran
  · exact absurd ran (not (namedType_isOther false))
  obtain ⟨-, ran⟩ | ⟨-, ran⟩ := run_if_sees ran
  · obtain ⟨-, middle, inside, rfl⟩ := (run_group_eq_ok_iff _ _ _ _ _).mp ran
    obtain ⟨found, reached, read, behind⟩ := (run_bind_eq_ok_iff _ _ _ _ _).mp inside
    obtain ⟨isArray, last, marked, made⟩ := (run_bind_eq_ok_iff _ _ _ _ _).mp behind
    have onward := leads_of_run marked
    cases isArray with
    | true =>
        obtain ⟨_, _, -, impossible⟩ := (run_bind_eq_ok_iff _ _ _ _ _).mp made
        cases impossible
    | false =>
        obtain ⟨⟨⟩, rfl⟩ := (run_pure_eq_ok_iff _ _ _ _).mp made
        exact ⟨reached, read, (Progress.leave_suffix last).trans onward.suffix⟩
  · -- None of the types that are tried after the brackets is a slice either.
    refine absurd ran (not (.bind fun isPointer => ?_))
    split
    · exact pointer_isOther
    refine .bind fun isReference => ?_
    split
    · exact reference_isOther
    refine .bind fun isNever => ?_
    split
    · exact .pure nofun
    refine .bind fun isAbstract => ?_
    split
    · exact abstractType_isOther
    refine .bind fun isInferred => ?_
    split
    · exact .pure nofun
    refine .bind fun isLifetime => ?_
    split
    · exact .bind fun _ => .pure nofun
    · exact .fail _

end Grammar

-----------------------------------------------------------------------------------------
-- Positions
-----------------------------------------------------------------------------------------

/-- What is told of where a type stands: where it starts, and where the element of a slice does. -/
def TypeShape.positions : TypeShape → List Position
  | .slice position element => [position, element.position]
  | shape => [shape.position]

theorem TypeForm.position_shape (form : TypeForm) (position : Position) (record : Record)
    : (form.shape position record).position = position := by
  unfold shape
  split
  case h_1 found => split <;> rfl
  all_goals rfl

theorem TypeForm.eq_slice_of_shape {form : TypeForm} {start position : Position} {record : Record}
    {element : TypeShape} (same : form.shape start record = .slice position element)
    : form = .slice element := by
  unfold shape at same
  split at same
  case h_1 found => split at same <;> cases same
  case h_2 inner =>
    cases same
    rfl
  all_goals cases same

namespace Grammar

variable {depth : Nat} {allowPlus : Bool} {before after : Progress} {shape : TypeShape}

/-- What is written verbatim or not is read as it is. -/
theorem exists_of_run_verbatimIf {α : Type} {isVerbatim : α → Bool} {reader : Reader α} {value : α}
    (ran : (verbatimIf isVerbatim reader).run before = .ok (value, after))
    : ∃ last,
        reader.run { before with written := [] } = .ok (value, last) ∧ last.rest = after.rest := by
  obtain ⟨⟨found, record⟩, _, recorded, behind⟩ := (run_bind_eq_ok_iff _ _ _ _ _).mp ran
  obtain ⟨_, _, wrote, made⟩ := (run_bind_eq_ok_iff _ _ _ _ _).mp behind
  obtain ⟨rfl, rfl⟩ := (run_pure_eq_ok_iff _ _ _ _).mp made
  obtain rfl := (run_write_eq_ok_iff _ _ _ _).mp wrote
  obtain ⟨last, inside, -, rfl⟩ := (run_recorded_eq_ok_iff _ _ _ _).mp recorded
  exact ⟨last, inside, rfl⟩

/-- A type is read from its form, which starts and ends where the type does. -/
theorem exists_of_run_readType {g : Grammar}
    (ran : (g.readType allowPlus).run before = .ok (shape, after))
    : ∃ form record start last,
        (g.typeForm allowPlus).run start = .ok (form, last)
        ∧ start.rest = before.rest ∧ last.rest = after.rest
        ∧ shape = form.shape (place before.rest) record := by
  obtain ⟨start, _, looked, read⟩ := (run_bind_eq_ok_iff _ _ _ _ _).mp ran
  obtain ⟨rfl, rfl⟩ := (run_look_eq_ok_iff _ _ _ _).mp looked
  obtain ⟨⟨form, record⟩, _, recorded, behind⟩ := (run_bind_eq_ok_iff _ _ _ _ _).mp read
  obtain ⟨_, _, wrote, made⟩ := (run_bind_eq_ok_iff _ _ _ _ _).mp behind
  obtain ⟨rfl, rfl⟩ := (run_pure_eq_ok_iff _ _ _ _).mp made
  obtain rfl := (run_write_eq_ok_iff _ _ _ _).mp wrote
  obtain ⟨_, formed, -, rfl⟩ := (run_recorded_eq_ok_iff _ _ _ _).mp recorded
  obtain ⟨last, inside, ends⟩ := exists_of_run_verbatimIf formed
  exact ⟨form, record, _, last, inside, rfl, ends, rfl⟩

/-- The types of a grammar are those that the grammar inside of it reads. -/
theorem exists_of_run_type (ran : ((ofDepth depth).type allowPlus).run before = .ok (shape, after))
    : ∃ inner, ((ofDepth inner).readType allowPlus).run before = .ok (shape, after) := by
  cases depth with
  | zero => cases ran
  | succ inner => exact ⟨inner, ran⟩

theorem position_of_run_type
    (ran : ((ofDepth depth).type allowPlus).run before = .ok (shape, after))
    : shape.position = place before.rest := by
  obtain ⟨inner, read⟩ := exists_of_run_type ran
  obtain ⟨form, record, start, last, -, -, -, rfl⟩ := exists_of_run_readType read
  exact form.position_shape _ _

/-- The element of a slice stands inside of the slice. -/
theorem visits_element {position : Position} {element : TypeShape}
    (ran : ((ofDepth depth).type allowPlus).run before = .ok (.slice position element, after))
    : before.Visits after element.position := by
  obtain ⟨inner, read⟩ := exists_of_run_type ran
  obtain ⟨form, record, start, last, formed, starts, ends, same⟩ := exists_of_run_readType read
  obtain rfl := TypeForm.eq_slice_of_shape same.symm
  obtain ⟨middle, found, suffix⟩ := exists_of_run_slice formed
  rw [position_of_run_type found]
  have inside := (leads_of_run found).suffix
  refine (Progress.visits_place inside).widen ?_ (ends ▸ suffix)
  exact starts ▸ List.drop_suffix 1 start.rest

theorem visits_of_run_type
    (ran : ((ofDepth depth).type allowPlus).run before = .ok (shape, after))
    : ∀ position ∈ shape.positions, before.Visits after position := by
  have start : before.Visits after shape.position := by
    rw [position_of_run_type ran]
    exact Progress.visits_place (leads_of_run ran).suffix
  intro position member
  cases shape with
  | slice place element =>
      rcases List.mem_cons.mp member with rfl | inside
      · exact start
      · rw [List.mem_singleton.mp inside]
        exact visits_element ran
  | _ =>
      rw [List.mem_singleton.mp member]
      exact start

end Grammar

end NestedSelect.Declaration
