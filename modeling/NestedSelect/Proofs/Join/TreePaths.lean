import NestedSelect.Proofs.Join.Addresses
import NestedSelect.Proofs.Join.Segments
/-!
The paths of a join tree. Where no field name has a dot and no siblings share a name, the dotted
paths of the nodes are those whose segments lead to a node.
-/

namespace NestedSelect.JoinNode

theorem paths_eq (node : JoinNode) : node.paths = pathsOfAll node.children := by
  cases node
  rw [paths]

/-- The paths of some nodes are their names, and their names with what lies below. -/
theorem mem_pathsOfAll_iff (path : String) (nodes : List JoinNode)
    : path ∈ pathsOfAll nodes
      ↔ ∃ node ∈ nodes,
          path = node.fieldName ∨ ∃ below ∈ node.paths, path = node.fieldName ++ "." ++ below := by
  induction nodes with
  | nil => simp [pathsOfAll]
  | cons node rest ih =>
      simp [pathsOfAll, ih, or_assoc, @eq_comm _ path]

/-- Of distinct siblings each is found under its name. By induction over the siblings. -/
theorem find?_of_mem {children : List JoinNode} {child : JoinNode}
    (distinct : (children.map (·.fieldName)).Nodup) (member : child ∈ children)
    : children.find? (·.fieldName = child.fieldName) = some child := by
  induction children with
  | nil => contradiction
  | cons first rest ih =>
      obtain ⟨apart, behind⟩ := List.nodup_cons.mp distinct
      rcases List.mem_cons.mp member with rfl | inside
      · simp
      · have different : first.fieldName ≠ child.fieldName := by
          intro same
          exact apart (List.mem_map.mpr ⟨child, inside, same.symm⟩)
        rw [List.find?_cons_of_neg (by simpa using different)]
        exact ih behind inside

/-- A child is found among the children, under its name. -/
theorem of_child?_eq_some {tree child : JoinNode} {fieldName : String}
    (found : tree.child? fieldName = some child)
    : child ∈ tree.children ∧ child.fieldName = fieldName := by
  rw [child?] at found
  exact ⟨List.mem_of_find?_eq_some found, by simpa using List.find?_some found⟩

/-- A path is listed exactly if its segments lead to a node. By induction over the segments, the
first of which names a child of the root.
-/
theorem mem_paths_iff {tree : JoinNode} (distinct : tree.DistinctSiblings)
    (dotless : tree.DotlessNames) (path : String)
    : path ∈ tree.paths ↔ ∃ node, tree.descend? (segments path) = some node := by
  induction names : segments path generalizing tree path with
  | nil => exact absurd names (segments_ne_nil path)
  | cons first rest ih =>
      rw [paths_eq, mem_pathsOfAll_iff, descend?]
      constructor
      · rintro ⟨child, member, named⟩
        have plain := dotless.top child.fieldName (List.mem_map_of_mem member)
        have found : tree.child? child.fieldName = some child :=
          find?_of_mem (EveryLevel.top distinct) member
        rcases named with rfl | ⟨below, inside, rfl⟩
        · rw [segments_of_dotless plain] at names
          obtain ⟨rfl, rfl⟩ := List.cons.inj names
          exact ⟨child, by rw [found]; rfl⟩
        · rw [segments_dotted plain] at names
          obtain ⟨rfl, rfl⟩ := List.cons.inj names
          rw [found, Option.bind_some]
          exact (ih (EveryLevel.child distinct member) (dotless.child member) below rfl).mp inside
      · rintro ⟨node, reached⟩
        obtain ⟨child, found, deeper⟩ := Option.bind_eq_some_iff.mp reached
        obtain ⟨member, rfl⟩ := of_child?_eq_some found
        refine ⟨child, member, ?_⟩
        rcases path_of_segments_eq_cons names with ⟨rfl, _⟩ | ⟨below, rfl, rfl⟩
        · exact .inl rfl
        · refine .inr ⟨below, ?_, rfl⟩
          exact (ih (EveryLevel.child distinct member) (dotless.child member) below rfl).mpr
            ⟨node, deeper⟩

end NestedSelect.JoinNode
