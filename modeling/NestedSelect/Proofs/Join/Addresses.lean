import NestedSelect.Join.Tree
/-!
Addresses of the nodes of a join tree. A node is addressed by the way down to it, which tells it
apart from all others whatever the nodes are called.
-/

namespace NestedSelect

/-- The way down to a node of a tree: the number of the child to go to at each step. -/
abbrev Address := List Nat

/-- The node of a join tree at an address. -/
def JoinNode.at? : JoinNode → Address → Option JoinNode
  | node, [] => some node
  | node, index :: rest => node.children[index]?.bind (·.at? rest)

/-- The field names on the way down to an address. -/
def JoinNode.trail : JoinNode → Address → List String
  | _, [] => []
  | node, index :: rest =>
    match node.children[index]? with
    | none => []
    | some child => child.fieldName :: child.trail rest

/-- No node of the tree has two children of the same name. -/
def JoinNode.DistinctSiblings (tree : JoinNode) : Prop :=
  ∀ address node, tree.at? address = some node → (node.children.map (·.fieldName)).Nodup

/-- The field names of the children have a property at every node of the tree. -/
def JoinNode.EveryLevel (property : List String → Prop) (tree : JoinNode) : Prop :=
  ∀ address node, tree.at? address = some node → property (node.children.map (·.fieldName))

/-- No field name below the root has a dot. -/
def JoinNode.DotlessNames (tree : JoinNode) : Prop :=
  tree.EveryLevel fun names => ∀ name ∈ names, '.' ∉ name.toList

namespace JoinNode.EveryLevel

variable {property : List String → Prop} {tree : JoinNode}

/-- A property holds at every level if it does right below the root and in the trees below that. -/
theorem of_children (top : property (tree.children.map (·.fieldName)))
    (below : ∀ child ∈ tree.children, child.EveryLevel property)
    : tree.EveryLevel property := by
  intro address node there
  cases address with
  | nil =>
      obtain rfl := Option.some.inj there
      exact top
  | cons index rest =>
      obtain ⟨child, found, inside⟩ := Option.bind_eq_some_iff.mp there
      exact below child (List.mem_of_getElem? found) rest node inside

theorem top (every : tree.EveryLevel property)
    : property (tree.children.map (·.fieldName)) :=
  every [] tree rfl

theorem child {child : JoinNode} (every : tree.EveryLevel property)
    (member : child ∈ tree.children)
    : child.EveryLevel property := by
  obtain ⟨index, found⟩ := List.getElem?_of_mem member
  intro address node there
  refine every (index :: address) node ?_
  rw [at?, found]
  exact there

end JoinNode.EveryLevel

/-- Siblings are distinct in a tree if they are below its root and in the trees below that. -/
theorem JoinNode.DistinctSiblings.of_children {tree : JoinNode}
    (top : (tree.children.map (·.fieldName)).Nodup)
    (below : ∀ child ∈ tree.children, child.DistinctSiblings)
    : tree.DistinctSiblings :=
  EveryLevel.of_children top below

end NestedSelect
