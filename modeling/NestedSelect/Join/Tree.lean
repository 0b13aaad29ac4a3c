import NestedSelect.Join.Spec
/-!
Join trees. Dotted join paths merge into one tree, in which a path is the list of field names on
the way down from the root. A node that only lies on the way to a requested one is not explicit.
-/

namespace NestedSelect

/-- The parts between the dots of a dotted text. There is always one more than there are dots,
and any of them may be empty.
-/
def splitDots : List Char → List (List Char)
  | [] => [[]]
  | c :: rest =>
    if c = '.' then [] :: splitDots rest
    else
      match splitDots rest with
      | first :: others => (c :: first) :: others
      | [] => [[c]]

/-- The field names along a dotted path. -/
def segments (path : String) : List String :=
  (splitDots path.toList).map String.ofList

/-- A node of a join tree. The root has an empty field name. -/
structure JoinNode where
  fieldName : String
  spec : JoinSpec
  /-- The node was itself requested. -/
  explicit : Bool
  children : List JoinNode

namespace JoinNode

/-- The root of a join tree, before any path is requested. -/
def root (spec : JoinSpec) : JoinNode :=
  ⟨"", spec, true, []⟩

/-- A node that a longer path passes through. Of the request for that path it takes the join
type alone.
-/
def implied (fieldName : String) (joinType : JoinType) : JoinNode :=
  ⟨fieldName, { joinType }, false, []⟩

/-- The first child with a field name. -/
def child? (node : JoinNode) (fieldName : String) : Option JoinNode :=
  node.children.find? (·.fieldName = fieldName)

/-- The node reached by following field names downwards. -/
def descend? (node : JoinNode) : List String → Option JoinNode
  | [] => some node
  | fieldName :: rest => (node.child? fieldName).bind (·.descend? rest)

/-- Apply a change to the first node with a field name, or to a `fresh` one put at the end. -/
def changeChild (fieldName : String) (change : JoinNode → JoinNode) (fresh : JoinNode)
    : List JoinNode → List JoinNode
  | [] => [change fresh]
  | node :: rest =>
    if node.fieldName = fieldName then change node :: rest
    else node :: changeChild fieldName change fresh rest

/-- Request the relation at the end of a list of field names. -/
def insert (spec : JoinSpec) : List String → JoinNode → JoinNode
  | [], node => { node with spec, explicit := true }
  | fieldName :: rest, node =>
    { node with
      children :=
        changeChild fieldName (insert spec rest) (implied fieldName spec.joinType)
          node.children }

/-- The tree of a list of dotted paths with what is asked of each, requested in list order. -/
def build (rootSpec : JoinSpec) (requests : List (String × JoinSpec)) : JoinNode :=
  requests.foldl (fun tree request => tree.insert request.2 (segments request.1)) (root rootSpec)

mutual

/-- The dotted paths of all nodes below a node, each followed by those of its descendants. -/
def paths : JoinNode → List String
  | ⟨_, _, _, children⟩ => pathsOfAll children

/-- The dotted paths of some nodes and of all nodes below them. -/
def pathsOfAll : List JoinNode → List String
  | [] => []
  | node :: rest =>
    node.fieldName :: node.paths.map (fun path => node.fieldName ++ "." ++ path)
      ++ pathsOfAll rest

end

end JoinNode

end NestedSelect
