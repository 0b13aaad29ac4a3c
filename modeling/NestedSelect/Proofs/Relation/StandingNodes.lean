import NestedSelect.Proofs.Relation.TreeCorrespondence
/-!
The nodes of a relation that stands for a join tree. Each node below has a relation that stands for
it, at the place that its field names lead to, and each child of a node is joined to the relation of
the node through the link of its name.
-/

namespace NestedSelect

variable {size : Nat} {catalog : Catalog size} {place : Place size} {node : JoinNode}
  {relation : Relation}

/-- A child of a node is joined to what stands for the node, and something stands for the child. -/
structure PlacedChild.Joins (catalog : Catalog size) (parent : Place size) (named : JoinNode)
    (relation : Relation) (child : PlacedChild size) : Prop where
  node : child.node = named
  fits : child.Fits catalog parent
  joined : (child.link.kind, child.joined) ∈ relation.children
  stands : Stands catalog child.place named child.joined.relation

theorem Stands.child (stands : Stands catalog place node relation) {index : Nat}
    {child : JoinNode} (found : node.children[index]? = some child)
    : ∃ placed : PlacedChild size, placed.Joins catalog place child relation := by
  cases stands with
  | intro children declared all same inOrder fits below =>
      rw [← all, List.getElem?_map] at found
      obtain ⟨placed, there, rfl⟩ := Option.map_eq_some_iff.mp found
      have member := List.mem_of_getElem? there
      have arranged : placed ∈ arrangedByKind declared :=
        (arrangedByKind_perm declared).mem_iff.mpr (same.mem_iff.mpr member)
      refine ⟨placed, rfl, fits placed member, ?_, below placed member⟩
      rw [children_eq_arrangedByKind]
      exact List.mem_map_of_mem arranged

/-- Something stands for each node of the tree, at the place that the field names on the way lead
to. By induction over the address of the node.
-/
theorem Stands.descend (stands : Stands catalog place node relation) {address : Address}
    {below : JoinNode} (there : node.at? address = some below)
    : ∃ (reached : Place size) (standing : Relation) (image : Address),
        Stands catalog reached below standing ∧ relation.at? image = some standing
          ∧ catalog.follow place.schema (node.trail address) = some reached.schema := by
  induction address generalizing place node relation with
  | nil =>
      obtain rfl := Option.some.inj there
      exact ⟨place, relation, [], stands, rfl, rfl⟩
  | cons index rest ih =>
      obtain ⟨child, found, deeper⟩ := Option.bind_eq_some_iff.mp there
      obtain ⟨placed, joins⟩ := stands.child found
      obtain ⟨reached, standing, image, standsThere, inTree, follows⟩ := ih joins.stands deeper
      obtain ⟨slot, slotted⟩ := List.getElem?_of_mem joins.joined
      refine ⟨reached, standing, slot :: image, standsThere, ?_, ?_⟩
      · rw [Relation.at?, slotted]
        exact inTree
      · have linked := joins.fits.found
        rw [joins.node] at linked
        rw [JoinNode.trail, found, Catalog.follow, linked, Option.bind_some, joins.fits.resolves]
        exact follows

end NestedSelect
