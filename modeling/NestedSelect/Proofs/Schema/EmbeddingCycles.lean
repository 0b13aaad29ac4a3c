import Mathlib.Logic.Relation
import NestedSelect.Proofs.Schema.TargetResolution
/-!
Cycles among embedding links. A schema on a cycle is met a second time below itself, and that is
always reported. Schemas are told apart by name, though: two of them that share a name and embed one
another are reported in the same way, with or without a cycle.
-/

namespace NestedSelect

variable {size : Nat}

namespace Catalog

variable (catalog : Catalog size)

-----------------------------------------------------------------------------------------
-- Embedding as a relation
-----------------------------------------------------------------------------------------

/-- One schema of the catalog has an embedding link to another one. -/
def Embeds (outer inner : Fin size) : Prop := inner ∈ (catalog outer).embedTargets

/-- One schema of the catalog is reached from another one through embedding links, if any. -/
def Reaches : Fin size → Fin size → Prop := Relation.ReflTransGen catalog.Embeds

/-- One schema of the catalog embeds another one, directly or through others. -/
def Contains : Fin size → Fin size → Prop := Relation.TransGen catalog.Embeds

/-- Some schema that is reached from the root embeds itself. -/
def HasCycle (root : Fin size) : Prop :=
  ∃ index, catalog.Reaches root index ∧ catalog.Contains index index

/-- Some schema that is reached from the root embeds one of its own name, be it itself or not. -/
def RepeatsName (root : Fin size) : Prop :=
  ∃ outer inner,
    catalog.Reaches root outer
      ∧ catalog.Contains outer inner
      ∧ (catalog inner).name = (catalog outer).name

/-- Resolving the root fails because of an embedding cycle. -/
def ReportsCycle (root : Fin size) : Prop :=
  ∃ name, (catalog root).resolve catalog = .error (.schema name .embeddingCycle)

variable {catalog}

theorem reaches_iff (outer inner : Fin size)
    : catalog.Reaches outer inner
      ↔ inner = outer ∨ ∃ target ∈ (catalog outer).embedTargets, catalog.Reaches target inner := by
  unfold Reaches
  rw [Relation.ReflTransGen.cases_head_iff, eq_comm]
  rfl

theorem contains_iff (outer inner : Fin size)
    : catalog.Contains outer inner
      ↔ ∃ target ∈ (catalog outer).embedTargets, catalog.Reaches target inner :=
  Relation.TransGen.head'_iff

theorem RepeatsName.of_target {index target : Fin size}
    (embedded : target ∈ (catalog index).embedTargets) (repeats : catalog.RepeatsName target)
    : catalog.RepeatsName index := by
  obtain ⟨outer, inner, reached, below, same⟩ := repeats
  exact ⟨outer, inner, (reaches_iff _ _).mpr (.inr ⟨target, embedded, reached⟩), below, same⟩

theorem HasCycle.repeatsName {root : Fin size} (cycle : catalog.HasCycle root)
    : catalog.RepeatsName root := by
  obtain ⟨index, reached, self⟩ := cycle
  exact ⟨index, index, reached, self, rfl⟩

-----------------------------------------------------------------------------------------
-- Success and failure
-----------------------------------------------------------------------------------------

/-- No schema that is reached has the name of one that embeds it, nor a name on the stack. -/
def IsClear (catalog : Catalog size) (stack : List String) (index : Fin size) : Prop :=
  (∀ inner, catalog.Reaches index inner → (catalog inner).name ∉ stack)
    ∧ ¬ catalog.RepeatsName index

/-- The way below a schema is clear exactly if its name is new, and the ways below all that it
embeds are clear once its own name is on the stack.
-/
theorem isClear_iff (stack : List String) (index : Fin size)
    : catalog.IsClear stack index
      ↔ (catalog index).name ∉ stack
        ∧ ∀ target ∈ (catalog index).embedTargets,
            catalog.IsClear ((catalog index).name :: stack) target := by
  constructor
  · rintro ⟨new, single⟩
    refine ⟨new index .refl, fun target embedded => ⟨fun inner reached inside => ?_, ?_⟩⟩
    · rcases List.mem_cons.mp inside with same | before
      · -- The name is that of the schema itself, which embeds the other one.
        have below := (contains_iff index inner).mpr ⟨target, embedded, reached⟩
        exact single ⟨index, inner, .refl, below, same⟩
      · exact new inner ((reaches_iff _ _).mpr (.inr ⟨target, embedded, reached⟩)) before
    · exact fun repeats => single (repeats.of_target embedded)
  · rintro ⟨new, each⟩
    refine ⟨fun inner reached inside => ?_, ?_⟩
    · rcases (reaches_iff _ _).mp reached with rfl | ⟨target, embedded, behind⟩
      · exact new inside
      · exact (each target embedded).1 inner behind (List.mem_cons_of_mem _ inside)
    · rintro ⟨outer, inner, reached, below, same⟩
      rcases (reaches_iff _ _).mp reached with rfl | ⟨target, embedded, behind⟩
      · obtain ⟨target, embedded, behind⟩ := (contains_iff _ _).mp below
        exact (each target embedded).1 inner behind (same ▸ List.mem_cons_self)
      · exact (each target embedded).2 ⟨outer, inner, behind, below, same⟩

/-- A schema is resolved under a stack exactly if the way below it is clear. By induction over the
schemas that are resolved on the way.
-/
theorem exists_resolveUnder_iff (stack : List String) (index : Fin size)
    : (∃ resolved, catalog.resolveUnder stack index = .ok resolved)
      ↔ catalog.IsClear stack index := by
  induction stack, index using Catalog.resolveUnder.induct catalog with
  | case1 stack index cycle =>
      rw [resolveUnder, dif_pos cycle]
      constructor
      · rintro ⟨resolved, ⟨⟩⟩
      · exact fun clear => absurd cycle ((isClear_iff _ _).mp clear).1
  | case2 stack index fresh ih =>
      rw [isClear_iff, resolveUnder, dif_neg fresh]
      have below := exists_mapM_eq_ok_iff
        (catalog.resolveUnder ((catalog index).name :: stack)) (catalog index).embedTargets
      constructor
      · rintro ⟨resolved, success⟩
        obtain ⟨embedded, made, -⟩ := (bind_eq_ok_iff _ _ _).mp success
        exact ⟨fresh, fun target member => (ih target).mp (below.mp ⟨embedded, made⟩ target member)⟩
      · rintro ⟨-, each⟩
        obtain ⟨embedded, made⟩ :=
          below.mpr fun target member => (ih target).mpr (each target member)
        exact ⟨_, (bind_eq_ok_iff _ _ _).mpr ⟨embedded, made, rfl⟩⟩

/-- Where a schema is not resolved, that is reported as an embedding cycle, at a schema that is
reached from it.
-/
theorem embeddingCycle_of_resolveUnder {stack : List String} {index : Fin size}
    {error : QueryError} (failure : catalog.resolveUnder stack index = .error error)
    : ∃ inner,
        catalog.Reaches index inner ∧ error = .schema (catalog inner).name .embeddingCycle := by
  induction stack, index using Catalog.resolveUnder.induct catalog with
  | case1 stack index cycle =>
      rw [resolveUnder, dif_pos cycle] at failure
      exact ⟨index, .refl, (Except.error.inj failure).symm⟩
  | case2 stack index fresh ih =>
      rcases catalog.error_of_resolveUnder failure with ⟨cycle, -⟩ | ⟨-, target, embedded, fails⟩
      · exact absurd cycle fresh
      · obtain ⟨inner, reached, told⟩ := ih target fails
        exact ⟨inner, (reaches_iff _ _).mpr (.inr ⟨target, embedded, reached⟩), told⟩

/-- The root is resolved exactly if nothing that it reaches embeds a schema of its own name. -/
theorem exists_resolve_iff (root : Fin size)
    : (∃ resolved, (catalog root).resolve catalog = .ok resolved) ↔ ¬ catalog.RepeatsName root := by
  rw [resolve_eq_resolveUnder, exists_resolveUnder_iff]
  exact ⟨And.right, fun single => ⟨fun _ _ => List.not_mem_nil, single⟩⟩

theorem reportsCycle_iff (root : Fin size)
    : catalog.ReportsCycle root ↔ catalog.RepeatsName root := by
  rw [← not_iff_not, ← exists_resolve_iff]
  unfold ReportsCycle
  cases outcome : (catalog root).resolve catalog with
  | ok resolved => simp
  | error error =>
      rw [resolve_eq_resolveUnder] at outcome
      obtain ⟨inner, -, rfl⟩ := embeddingCycle_of_resolveUnder outcome
      simp

-----------------------------------------------------------------------------------------
-- Cycles and namesakes
-----------------------------------------------------------------------------------------

/-- A schema is either resolved or reported as an embedding cycle, the latter exactly if some schema
that it reaches embeds one of its own name. So every cycle is reported. The reports are those of
cycles exactly if no schema that is reached embeds another one of its own name unless there is a
cycle too, and in any case if the schemas that are reached all have names of their own.
-/
theorem cycle_reported_iff (catalog : Catalog size) (root : Fin size)
    : (catalog.ReportsCycle root ↔ catalog.RepeatsName root)
      ∧ ((∃ resolved, (catalog root).resolve catalog = .ok resolved)
        ↔ ¬ catalog.ReportsCycle root)
      ∧ (catalog.HasCycle root → catalog.ReportsCycle root)
      ∧ ((catalog.ReportsCycle root ↔ catalog.HasCycle root)
        ↔ (catalog.RepeatsName root → catalog.HasCycle root))
      ∧ ((∀ first second,
            catalog.Reaches root first
            → catalog.Reaches root second
            → (catalog first).name = (catalog second).name
            → first = second)
        → (catalog.ReportsCycle root ↔ catalog.HasCycle root)) := by
  have always (cycle : catalog.HasCycle root) := cycle.repeatsName
  rw [exists_resolve_iff, reportsCycle_iff]
  refine ⟨.rfl, .rfl, always, ⟨Iff.mp, fun only => ⟨only, always⟩⟩, fun apart => ⟨?_, always⟩⟩
  rintro ⟨outer, inner, reached, below, same⟩
  have behind : catalog.Reaches root inner := reached.trans below.to_reflTransGen
  obtain rfl := apart inner outer behind reached same
  exact ⟨inner, reached, below⟩

/-- A table whose fragment embeds another fragment of the same name. -/
def namesakeFragments : Catalog 3 := fun index =>
  if index.val = 0 then {
      name := "Post"
      tableName := some "post"
      fields := [⟨"id", "id"⟩]
      relations := [.embedded "audit" ⟨1, by decide⟩]
    }
  else if index.val = 1 then {
      name := "Audit"
      fields := [⟨"created_at", "created_at"⟩]
      relations := [.embedded "origin" ⟨2, by decide⟩]
    }
  else { name := "Audit", fields := [⟨"created_by", "created_by"⟩] }

/-- A cycle is reported although no schema embeds itself: every link leads to a later schema. -/
theorem cycle_reported_for_namesakes
    : ¬ (namesakeFragments.ReportsCycle 0 ↔ namesakeFragments.HasCycle 0) := by
  have later (outer inner : Fin 3)
      : inner ∈ (namesakeFragments outer).embedTargets → outer < inner := by
    revert outer inner
    decide
  have first : namesakeFragments.Embeds 0 1 := List.mem_singleton.mpr rfl
  have second : namesakeFragments.Embeds 1 2 := List.mem_singleton.mpr rfl
  have repeats : namesakeFragments.RepeatsName 0 := ⟨1, 2, .single first, .single second, rfl⟩
  intro same
  obtain ⟨index, -, self⟩ := same.mp ((reportsCycle_iff 0).mpr repeats)
  have ahead {outer inner : Fin 3} (below : namesakeFragments.Contains outer inner)
      : outer < inner := by
    induction below with
    | single embeds => exact later _ _ embeds
    | tail _ embeds ih => exact Fin.lt_trans ih (later _ _ embeds)
  exact Fin.lt_irrefl index (ahead self)

end Catalog

end NestedSelect
