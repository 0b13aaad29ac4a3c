import NestedSelect.Proofs.Outcome
import NestedSelect.Schema.Embedding
/-!
Resolving a schema, told from how the targets of its embedding links are resolved. The schemas that
a schema is embedded by only decide whether it is resolved at all, and not what it is resolved to.
-/

namespace NestedSelect

variable {size : Nat}

/-- A schema is resolved by resolving what it embeds, one target after another. -/
theorem Schema.resolve_eq_ok_iff (catalog : Catalog size) (schema resolved : Schema size)
    : schema.resolve catalog = .ok resolved
      ↔ ∃ embedded,
          List.Forall₂ (fun target part => catalog.resolveUnder [schema.name] target = .ok part)
              schema.embedTargets embedded
            ∧ resolved = schema.withEmbedded embedded := by
  unfold resolve
  simp only [bind_eq_ok_iff, mapM_eq_ok_iff]
  exact exists_congr fun embedded =>
    and_congr_right fun _ => ⟨fun made => (Except.ok.inj made).symm, fun made => made ▸ rfl⟩

namespace Catalog

variable (catalog : Catalog size)

/-- Schemas that nothing embeds are the roots of resolution. -/
theorem resolve_eq_resolveUnder (index : Fin size)
    : (catalog index).resolve catalog = catalog.resolveUnder [] index := by
  rw [resolveUnder, dif_neg List.not_mem_nil]
  rfl

/-- A schema that is embedded is resolved exactly if no schema of its name embeds it and the
targets of its own embedding links are resolved below it.
-/
theorem resolveUnder_eq_ok_iff (stack : List String) (index : Fin size) (resolved : Schema size)
    : catalog.resolveUnder stack index = .ok resolved
      ↔ (catalog index).name ∉ stack
        ∧ ∃ embedded,
            List.Forall₂
                (fun target part =>
                  catalog.resolveUnder ((catalog index).name :: stack) target = .ok part)
                (catalog index).embedTargets embedded
              ∧ resolved = (catalog index).withEmbedded embedded := by
  rw [resolveUnder]
  by_cases cycle : (catalog index).name ∈ stack
  · simp [cycle]
  · rw [dif_neg cycle]
    simp only [bind_eq_ok_iff, mapM_eq_ok_iff, cycle, not_false_eq_true, true_and]
    exact exists_congr fun embedded =>
      and_congr_right fun _ => ⟨fun made => (Except.ok.inj made).symm, fun made => made ▸ rfl⟩

/-- A schema that is embedded is not resolved because one of its name embeds it, or because one of
its own targets is not.
-/
theorem error_of_resolveUnder {stack : List String} {index : Fin size} {error : QueryError}
    (failure : catalog.resolveUnder stack index = .error error)
    : ((catalog index).name ∈ stack ∧ error = .schema (catalog index).name .embeddingCycle)
      ∨ (catalog index).name ∉ stack
        ∧ ∃ target ∈ (catalog index).embedTargets,
            catalog.resolveUnder ((catalog index).name :: stack) target = .error error := by
  rw [resolveUnder] at failure
  by_cases cycle : (catalog index).name ∈ stack
  · rw [dif_pos cycle] at failure
    exact .inl ⟨cycle, (Except.error.inj failure).symm⟩
  · rw [dif_neg cycle] at failure
    rcases (bind_eq_error_iff _ _ _).mp failure with below | ⟨embedded, -, never⟩
    · exact .inr ⟨cycle, error_of_mapM below⟩
    · cases never

variable {catalog}

/-- What a schema is resolved to does not depend on what it is embedded by, and where more schemas
embed it than elsewhere it is resolved there too. By induction over the schemas that are resolved
on the way.
-/
theorem resolveUnder_of_subset {stack : List String} {index : Fin size}
    {resolved : Schema size} (success : catalog.resolveUnder stack index = .ok resolved)
    {fewer : List String} (subset : fewer ⊆ stack)
    : catalog.resolveUnder fewer index = .ok resolved := by
  induction stack, index using Catalog.resolveUnder.induct catalog generalizing resolved fewer with
  | case1 stack index cycle =>
      exact absurd cycle ((catalog.resolveUnder_eq_ok_iff _ _ _).mp success).1
  | case2 stack index fresh ih =>
      obtain ⟨-, embedded, inStep, made⟩ := (catalog.resolveUnder_eq_ok_iff _ _ _).mp success
      refine (catalog.resolveUnder_eq_ok_iff _ _ _).mpr
        ⟨fun inside => fresh (subset inside), embedded, ?_, made⟩
      exact inStep.imp fun target part resolves =>
        ih target resolves (List.cons_subset_cons _ subset)

end Catalog

end NestedSelect
