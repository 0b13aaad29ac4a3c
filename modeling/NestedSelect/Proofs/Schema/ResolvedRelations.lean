import NestedSelect.Proofs.Schema.TargetResolution
/-!
The relations of resolved schemas. Resolving a schema invents no relation: every one of them is
declared by the schema itself or by some schema of the catalog.
-/

namespace NestedSelect

variable {size : Nat}

/-- The link is declared by some schema of the catalog. -/
def Catalog.Declares (catalog : Catalog size) (link : RelationLink size) : Prop :=
  ∃ index, link ∈ (catalog index).relations

/-- An expanded schema has the relations of what it embeds and its own. -/
theorem Schema.mem_relations_withEmbedded {schema : Schema size} {embedded : List (Schema size)}
    {link : RelationLink size} (member : link ∈ (schema.withEmbedded embedded).relations)
    : link ∈ schema.relations ∨ ∃ target ∈ embedded, link ∈ target.relations := by
  rcases List.mem_append.mp member with taken | own
  · exact .inr (List.mem_flatMap.mp taken)
  · exact .inl (List.mem_of_mem_filter own)

/-- The relations of schemas that are resolved for embedding are declared in the catalog. By
induction over the schemas that are resolved on the way.
-/
theorem Catalog.declares_of_resolveUnder (catalog : Catalog size) (stack : List String)
    (index : Fin size)
    : ∀ resolved,
        catalog.resolveUnder stack index = .ok resolved
        → ∀ link ∈ resolved.relations, catalog.Declares link := by
  induction stack, index using Catalog.resolveUnder.induct catalog with
  | case1 stack index cycle =>
      intro resolved success
      exact absurd cycle ((catalog.resolveUnder_eq_ok_iff _ _ _).mp success).1
  | case2 stack index fresh ih =>
      intro resolved success link member
      obtain ⟨-, embedded, each, rfl⟩ := (catalog.resolveUnder_eq_ok_iff _ _ _).mp success
      rcases Schema.mem_relations_withEmbedded member with own | ⟨target, inside, taken⟩
      · exact ⟨index, own⟩
      · obtain ⟨source, _, resolves⟩ := partner_of_mem_right each inside
        exact ih source target resolves link taken

/-- The relations of a resolved schema of the catalog are declared in the catalog. -/
theorem Catalog.declares_of_resolve (catalog : Catalog size) (index : Fin size)
    {resolved : Schema size} (success : (catalog index).resolve catalog = .ok resolved)
    {link : RelationLink size} (member : link ∈ resolved.relations)
    : catalog.Declares link :=
  catalog.declares_of_resolveUnder [] index resolved
    (catalog.resolve_eq_resolveUnder index ▸ success) link member

end NestedSelect
