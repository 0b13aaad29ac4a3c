import NestedSelect.Proofs.Join.RequestedNodes
import NestedSelect.Proofs.Relation.JoinValidity
/-!
The paths of a join tree as a listing of its nodes. Each node below the root is listed once, in
front of its descendants, which follow it without a gap. Nothing is lost on the way: a tree that is
built anew from the listed paths, each with the spec that its node holds, has the same nodes and
specs.
-/

namespace NestedSelect

-----------------------------------------------------------------------------------------
-- Paths and names
-----------------------------------------------------------------------------------------

/-- Behind a dot the path of some names spells each of them with a dot in front. -/
theorem toList_dotted {names : List String} (filled : names ≠ [])
    : '.' :: (dotted names).toList = names.flatMap fun name => '.' :: name.toList := by
  induction names with
  | nil => contradiction
  | cons first rest ih =>
      cases rest with
      | nil => simp [dotted]
      | cons next others =>
          rw [List.flatMap_cons, ← ih (by simp), dotted, String.intercalate_cons_cons, dotted]
          simp

/-- A path is the dotted path of its own segments. -/
theorem dotted_segments (path : String) : dotted (segments path) = path := by
  have letters : '.' :: (dotted (segments path)).toList = '.' :: path.toList := by
    rw [toList_dotted (segments_ne_nil path), segments, List.flatMap_map,
      ← flatMap_dot_splitDots path.toList]
    simp
  exact String.toList_inj.mp (List.cons.inj letters).2

/-- Names without dots are the segments of their path. -/
theorem segments_dotted_of_dotless {names : List String} (filled : names ≠ [])
    (dotless : ∀ name ∈ names, '.' ∉ name.toList)
    : segments (dotted names) = names := by
  have same : [dotted names].flatMap segments = names.flatMap segments := by
    rw [← flatMap_dot_eq_iff, ← toList_dotted filled, List.flatMap_singleton]
  rwa [List.flatMap_singleton, flatMap_segments_of_no_dots dotless] at same

theorem segments_append_dot (path below : String)
    : segments (path ++ "." ++ below) = segments path ++ segments below := by
  have letters : (path ++ "." ++ below).toList = path.toList ++ '.' :: below.toList := by
    simp [String.toList_append]
  rw [segments, letters, splitDots_append_dot, List.map_append]
  rfl

/-- What goes on behind a path is the path with a dot and some other path behind it. -/
theorem beyond_iff (path longer : String)
    : Beyond path longer ↔ ∃ below, longer = path ++ "." ++ below := by
  constructor
  · rintro ⟨rest, split⟩
    refine ⟨String.ofList rest, ?_⟩
    rw [← String.toList_inj, ← split]
    simp
  · rintro ⟨below, rfl⟩
    exact ⟨below.toList, by simp⟩

theorem append_dot_injective (path : String) : Function.Injective (path ++ "." ++ ·) := by
  intro first second same
  have letters := String.toList_inj.mpr same
  exact String.toList_inj.mp (by simpa using letters)

namespace JoinNode

-----------------------------------------------------------------------------------------
-- Well-named trees
-----------------------------------------------------------------------------------------

/-- The names in the tree make paths that tell its nodes apart. -/
structure WellNamed (tree : JoinNode) : Prop where
  distinct : tree.DistinctSiblings
  dotless : tree.DotlessNames

theorem wellNamed_build (rootSpec : JoinSpec) (requests : List (String × JoinSpec))
    : (build rootSpec requests).WellNamed :=
  ⟨distinctSiblings_build rootSpec requests, dotlessNames_build rootSpec requests⟩

/-- Field names lead on from where other field names have led. -/
theorem descend?_append (tree : JoinNode) (front back : List String)
    : tree.descend? (front ++ back) = (tree.descend? front).bind (·.descend? back) := by
  induction front generalizing tree with
  | nil => rfl
  | cons fieldName rest ih =>
      rw [List.cons_append, descend?, descend?, Option.bind_assoc]
      exact congrArg _ (funext ih)

namespace WellNamed

variable {tree : JoinNode}

theorem child {child : JoinNode} (named : tree.WellNamed) (member : child ∈ tree.children)
    : child.WellNamed :=
  ⟨EveryLevel.child named.distinct member, named.dotless.child member⟩

theorem dotless_child {child : JoinNode} (named : tree.WellNamed)
    (member : child ∈ tree.children)
    : '.' ∉ child.fieldName.toList :=
  named.dotless.top child.fieldName (List.mem_map_of_mem member)

theorem descend {names : List String} {node : JoinNode} (named : tree.WellNamed)
    (reached : tree.descend? names = some node)
    : node.WellNamed := by
  induction names generalizing tree with
  | nil => exact Option.some.inj reached ▸ named
  | cons fieldName rest ih =>
      obtain ⟨child, found, deeper⟩ := Option.bind_eq_some_iff.mp reached
      exact ih (named.child (of_child?_eq_some found).1) deeper

theorem mem_paths_iff (named : tree.WellNamed) (path : String)
    : path ∈ tree.paths ↔ ∃ node, tree.descend? (segments path) = some node :=
  JoinNode.mem_paths_iff named.distinct named.dotless path

/-- All names on the way to a node are without dots. -/
theorem dotless_of_descend {names : List String} {node : JoinNode} (named : tree.WellNamed)
    (reached : tree.descend? names = some node)
    : ∀ name ∈ names, '.' ∉ name.toList := by
  induction names generalizing tree with
  | nil => simp
  | cons fieldName rest ih =>
      obtain ⟨child, found, deeper⟩ := Option.bind_eq_some_iff.mp reached
      obtain ⟨member, rfl⟩ := of_child?_eq_some found
      exact List.forall_mem_cons.mpr ⟨named.dotless_child member, ih (named.child member) deeper⟩

/-- The names on the way down to an address lead to the node there. -/
theorem descend?_trail (named : tree.WellNamed) {address : Address} {node : JoinNode}
    (there : tree.at? address = some node)
    : tree.descend? (tree.trail address) = some node := by
  induction address generalizing tree with
  | nil => exact there
  | cons index rest ih =>
      obtain ⟨child, found, inside⟩ := Option.bind_eq_some_iff.mp there
      have member := List.mem_of_getElem? found
      have first : tree.child? child.fieldName = some child :=
        find?_of_mem (EveryLevel.top named.distinct) member
      rw [trail, found, descend?, first]
      exact ih (named.child member) inside

end WellNamed

-----------------------------------------------------------------------------------------
-- No path twice
-----------------------------------------------------------------------------------------

/-- The path of a node and those of its descendants. -/
def block (node : JoinNode) : List String :=
  node.fieldName :: node.paths.map (node.fieldName ++ "." ++ ·)

theorem pathsOfAll_eq_flatMap (nodes : List JoinNode) : pathsOfAll nodes = nodes.flatMap block := by
  induction nodes with
  | nil => rfl
  | cons node rest ih =>
      rw [pathsOfAll, ih]
      rfl

/-- All paths of a block start with the name of its node. -/
theorem segments_of_mem_block {node : JoinNode} (dotless : '.' ∉ node.fieldName.toList)
    {path : String} (member : path ∈ node.block)
    : ∃ rest, segments path = node.fieldName :: rest := by
  rcases List.mem_cons.mp member with rfl | below
  · exact ⟨[], segments_of_dotless dotless⟩
  · obtain ⟨rest, _, rfl⟩ := List.mem_map.mp below
    exact ⟨segments rest, segments_dotted dotless rest⟩

theorem nodup_block {node : JoinNode} (below : node.paths.Nodup) : node.block.Nodup := by
  refine List.nodup_cons.mpr ⟨?_, below.map (append_dot_injective node.fieldName)⟩
  intro member
  obtain ⟨rest, _, same⟩ := List.mem_map.mp member
  have letters := congrArg (·.toList.length) same
  simp at letters

mutual

/-- No path is listed twice, by induction over the tree. -/
theorem nodup_paths {tree : JoinNode} (named : tree.WellNamed) : tree.paths.Nodup := by
  match tree with
  | ⟨fieldName, spec, explicit, children⟩ =>
      rw [paths]
      exact nodup_pathsOfAll (EveryLevel.top named.distinct) fun child member =>
        ⟨named.dotless_child member, named.child member⟩

/-- Blocks of different siblings have no path in common. -/
theorem nodup_pathsOfAll {nodes : List JoinNode} (names : (nodes.map (·.fieldName)).Nodup)
    (below : ∀ node ∈ nodes, '.' ∉ node.fieldName.toList ∧ node.WellNamed)
    : (pathsOfAll nodes).Nodup := by
  match nodes with
  | [] => exact List.nodup_nil
  | node :: rest =>
      obtain ⟨apart, others⟩ := List.nodup_cons.mp names
      obtain ⟨here, later⟩ := List.forall_mem_cons.mp below
      refine List.nodup_append.mpr
        ⟨nodup_block (nodup_paths here.2), nodup_pathsOfAll others later, ?_⟩
      rintro path inside _ behind rfl
      rw [pathsOfAll_eq_flatMap] at behind
      obtain ⟨other, member, there⟩ := List.mem_flatMap.mp behind
      obtain ⟨front, cut⟩ := segments_of_mem_block here.1 inside
      obtain ⟨back, otherCut⟩ := segments_of_mem_block (later other member).1 there
      have same : node.fieldName = other.fieldName := (List.cons.inj (cut.symm.trans otherCut)).1
      exact apart (List.mem_map.mpr ⟨other, member, same.symm⟩)

end

-----------------------------------------------------------------------------------------
-- Descendants in a row
-----------------------------------------------------------------------------------------

/-- The path of a node is directly followed by those of its descendants. By induction over the
segments of the path.
-/
theorem paths_eq_append {tree node : JoinNode} {path : String}
    (reached : tree.descend? (segments path) = some node)
    : ∃ before after,
        tree.paths = before ++ path :: (node.paths.map (path ++ "." ++ ·) ++ after) := by
  induction names : segments path generalizing tree path with
  | nil => exact absurd names (segments_ne_nil path)
  | cons first rest ih =>
      rw [names] at reached
      obtain ⟨child, found, deeper⟩ := Option.bind_eq_some_iff.mp reached
      obtain ⟨member, rfl⟩ := of_child?_eq_some found
      obtain ⟨front, back, split⟩ := List.append_of_mem member
      have whole : tree.paths = front.flatMap block ++ (child.block ++ back.flatMap block) := by
        rw [paths_eq, pathsOfAll_eq_flatMap, split, List.flatMap_append, List.flatMap_cons]
      rcases path_of_segments_eq_cons names with ⟨rfl, rfl⟩ | ⟨below, rfl, rfl⟩
      · obtain rfl := Option.some.inj deeper
        exact ⟨front.flatMap block, back.flatMap block, whole⟩
      · obtain ⟨before, after, inside⟩ := ih deeper rfl
        refine ⟨front.flatMap block
            ++ child.fieldName :: before.map (child.fieldName ++ "." ++ ·),
          after.map (child.fieldName ++ "." ++ ·) ++ back.flatMap block, ?_⟩
        rw [whole, block, inside]
        simp [String.append_assoc]

/-- Whatever goes on behind the path of a node is in the block of the node. -/
theorem WellNamed.mem_of_beyond {tree : JoinNode} (named : tree.WellNamed)
    {path longer : String} (beyond : Beyond path longer) (member : longer ∈ tree.paths)
    : ∃ node,
        tree.descend? (segments path) = some node
        ∧ longer ∈ node.paths.map (path ++ "." ++ ·) := by
  obtain ⟨below, rfl⟩ := (beyond_iff path longer).mp beyond
  obtain ⟨target, reached⟩ := (named.mem_paths_iff _).mp member
  rw [segments_append_dot, descend?_append] at reached
  obtain ⟨node, there, deeper⟩ := Option.bind_eq_some_iff.mp reached
  refine ⟨node, there, List.mem_map_of_mem ?_⟩
  exact ((named.descend there).mem_paths_iff below).mpr ⟨target, deeper⟩

/-- The paths list the nodes of a tree below its root, depth first. -/
structure Lists (paths : List String) (tree : JoinNode) : Prop where
  unique : paths.Nodup
  reached : ∀ path, path ∈ paths ↔ ∃ node, tree.descend? (segments path) = some node
  /-- A path is listed behind that of its parent, and behind those of all other ancestors. -/
  ancestorsFirst
    : ∀ ancestor path, Beyond ancestor path → path ∈ paths → [ancestor, path].Sublist paths
  /-- A path is directly followed by the block of its descendants, and these are not elsewhere. -/
  inBlocks
    : ∀ path ∈ paths,
        ∃ before block after,
          paths = before ++ path :: (block ++ after)
          ∧ (∀ other ∈ block, Beyond path other)
          ∧ ∀ other ∈ before ++ after, ¬Beyond path other

theorem WellNamed.lists {tree : JoinNode} (named : tree.WellNamed)
    : Lists tree.paths tree where
  unique := nodup_paths named
  reached := named.mem_paths_iff
  ancestorsFirst := by
    intro ancestor path beyond member
    obtain ⟨node, reached, inside⟩ := named.mem_of_beyond beyond member
    obtain ⟨before, after, split⟩ := paths_eq_append reached
    have behind : [path].Sublist (node.paths.map (ancestor ++ "." ++ ·) ++ after) :=
      List.singleton_sublist.mpr (List.mem_append_left after inside)
    rw [split]
    exact (behind.cons_cons ancestor).trans (List.sublist_append_right before _)
  inBlocks := by
    intro path member
    obtain ⟨node, reached⟩ := (named.mem_paths_iff path).mp member
    obtain ⟨before, after, split⟩ := paths_eq_append reached
    refine ⟨before, _, after, split, ?_, ?_⟩
    · intro other inside
      obtain ⟨below, _, rfl⟩ := List.mem_map.mp inside
      exact (beyond_iff path _).mpr ⟨below, rfl⟩
    · -- A descendant outside of the block would be listed twice.
      intro other outside beyond
      have listed : other ∈ tree.paths := by
        rw [split]
        rcases List.mem_append.mp outside with front | back <;> simp [*]
      obtain ⟨same, there, inside⟩ := named.mem_of_beyond beyond listed
      obtain rfl := Option.some.inj (reached.symm.trans there)
      have once := nodup_paths named
      rw [split] at once
      obtain ⟨_, tail, apart⟩ := List.nodup_append.mp once
      rcases List.mem_append.mp outside with front | back
      · exact apart other front other (by simp [inside]) rfl
      · exact (List.nodup_append.mp (List.nodup_cons.mp tail).2).2.2 other inside other back rfl

/-- The paths of a tree that is built from requests are the requested ones and what comes in front
of a dot in them.
-/
theorem mem_paths_build_iff (rootSpec : JoinSpec) (requests : List (String × JoinSpec))
    (path : String)
    : path ∈ (build rootSpec requests).paths
      ↔ ∃ request ∈ requests,
          ∃ names, names ≠ [] ∧ names <+: segments request.1 ∧ path = dotted names := by
  rw [(wellNamed_build rootSpec requests).mem_paths_iff, exists_descend?_build_iff]
  refine exists_congr fun request => and_congr_right fun _ => ?_
  rw [eq_comm, ← segments_prefix_iff]
  constructor
  · exact fun leads => ⟨segments path, segments_ne_nil path, leads, (dotted_segments path).symm⟩
  · rintro ⟨names, filled, leads, rfl⟩
    have dotless : ∀ name ∈ names, '.' ∉ name.toList := fun name member =>
      dot_not_mem_of_mem_segments (leads.subset member)
    rwa [segments_dotted_of_dotless filled dotless]

end JoinNode

-----------------------------------------------------------------------------------------
-- Building anew
-----------------------------------------------------------------------------------------

namespace JoinRequests

/-- Requests that are taken in order hold the last one for each path. By induction over the
requests, with those that are held before each.
-/
theorem find?_ofList (requests : List (String × JoinSpec)) (path : String)
    : (ofList requests).find? path = (lastFor? path requests).map (·.2) := by
  have run (held : JoinRequests)
      : find? (requests.foldl (fun held request => held.set request.1 request.2) held) path
        = ((lastFor? path requests).map (·.2)).or (held.find? path) := by
    induction requests generalizing held with
    | nil => rfl
    | cons request rest ih =>
        rw [List.foldl_cons, ih, find?_set, lastFor?_cons]
        by_cases same : request.1 = path
        · cases lastFor? path rest <;> simp [same]
        · simp [same, Ne.symm same]
  exact (run []).trans Option.or_none

theorem ascending_ofList (requests : List (String × JoinSpec)) : Ascending (ofList requests) := by
  refine List.foldlRecOn requests _ (motive := Ascending) List.Pairwise.nil ?_
  exact fun held ascending request _ => ascending.set request.1 request.2

/-- Of ascending requests the last one for a path is the one that is found. -/
theorem Ascending.lastFor?_eq {requests : JoinRequests} (ascending : requests.Ascending)
    (path : String)
    : lastFor? path requests = (requests.find? path).map (path, ·) := by
  cases found : requests.find? path with
  | some spec =>
      obtain ⟨before, after, rfl, last⟩ := ascending.split found
      exact lastFor?_append_cons before after path spec last
  | none => exact lastFor?_eq_none_iff.mpr (find?_eq_none_iff.mp found)

end JoinRequests

namespace JoinNode

/-- The requests for all nodes of a tree, each path with the spec that its node holds. -/
def requests (tree : JoinNode) : JoinRequests :=
  .ofList
    (tree.paths.filterMap fun path =>
      (tree.descend? (segments path)).map fun node => (path, node.spec))

theorem WellNamed.find?_requests {tree : JoinNode} (named : tree.WellNamed) (path : String)
    : tree.requests.find? path = (tree.descend? (segments path)).map (·.spec) := by
  rw [requests, JoinRequests.find?_ofList]
  -- Whatever is requested for the path is the spec of its node.
  have held
      : ∀ request,
          lastFor? path
              (tree.paths.filterMap fun path =>
                (tree.descend? (segments path)).map fun node => (path, node.spec))
            = some request
          → ∃ node, tree.descend? (segments path) = some node ∧ request = (path, node.spec) := by
    intro request last
    obtain ⟨member, rfl⟩ := of_lastFor?_eq_some last
    obtain ⟨_, _, made⟩ := List.mem_filterMap.mp member
    obtain ⟨node, reached, rfl⟩ := Option.map_eq_some_iff.mp made
    exact ⟨node, reached, rfl⟩
  cases last : lastFor? path _ with
  | some request =>
      obtain ⟨node, reached, rfl⟩ := held request last
      rw [reached]
      rfl
  | none =>
      cases reached : tree.descend? (segments path) with
      | none => rfl
      | some node =>
          have listed := (named.mem_paths_iff path).mpr ⟨node, reached⟩
          refine absurd rfl (lastFor?_eq_none_iff.mp last (path, node.spec) ?_)
          exact List.mem_filterMap.mpr ⟨path, listed, by rw [reached]; rfl⟩

/-- What is built anew from all nodes of a tree holds the same at each path, and it is explicit. -/
theorem WellNamed.standing?_rebuilt {tree : JoinNode} (named : tree.WellNamed)
    (rootSpec : JoinSpec) (path : String)
    : (build rootSpec tree.requests).standing? (segments path)
        = (tree.descend? (segments path)).map fun node => (true, node.spec) := by
  have ascending : tree.requests.Ascending := JoinRequests.ascending_ofList _
  rw [standing?_build, ascending.lastFor?_eq, named.find?_requests]
  cases reached : tree.descend? (segments path) with
  | some node => rfl
  | none =>
      have first : firstBeyond? path tree.requests = none := by
        refine List.find?_eq_none.mpr fun request member => ?_
        intro beyond
        have asked : tree.requests.find? request.1 ≠ none := fun absent =>
          JoinRequests.find?_eq_none_iff.mp absent request member rfl
        rw [named.find?_requests] at asked
        obtain ⟨node, there⟩ := Option.ne_none_iff_exists'.mp (mt Option.map_eq_none_iff.mpr asked)
        have listed := (named.mem_paths_iff request.1).mpr ⟨node, there⟩
        obtain ⟨parent, found, _⟩ := named.mem_of_beyond (of_decide_eq_true beyond) listed
        rw [found] at reached
        contradiction
      simp [first]

/-- The tree repeats another one: it has the same nodes with the same specs, all of them explicit.
-/
structure Repeats (tree original : JoinNode) : Prop where
  paths : ∀ path, path ∈ tree.paths ↔ path ∈ original.paths
  specs
    : ∀ path node,
        original.descend? (segments path) = some node
        → ∃ repeated,
            tree.descend? (segments path) = some repeated ∧ repeated.spec = node.spec
  explicit : ∀ address node, tree.at? address = some node → node.explicit = true

theorem explicit_build (rootSpec : JoinSpec) (requests : List (String × JoinSpec))
    : (build rootSpec requests).explicit = true := by
  refine List.foldlRecOn requests _ (motive := fun tree : JoinNode => tree.explicit = true) rfl ?_
  intro tree kept request _
  cases names : segments request.1 with
  | nil => exact absurd names (segments_ne_nil request.1)
  | cons first rest => exact kept

theorem WellNamed.repeats {tree : JoinNode} (named : tree.WellNamed) (rootSpec : JoinSpec)
    : (build rootSpec tree.requests).Repeats tree where
  paths := by
    intro path
    have standing := named.standing?_rebuilt rootSpec path
    rw [(wellNamed_build rootSpec tree.requests).mem_paths_iff, named.mem_paths_iff,
      ← Option.isSome_iff_exists, ← Option.isSome_iff_exists,
      ← Option.isSome_map (f := fun node : JoinNode => (node.explicit, node.spec)),
      ← Option.isSome_map (f := fun node : JoinNode => (true, node.spec)), ← standing]
    rfl
  specs := by
    intro path node reached
    have standing := named.standing?_rebuilt rootSpec path
    rw [reached, standing?] at standing
    obtain ⟨repeated, there, same⟩ := Option.map_eq_some_iff.mp standing
    exact ⟨repeated, there, (Prod.mk.inj same).2⟩
  explicit := by
    intro address node there
    cases address with
    | nil => exact Option.some.inj there ▸ explicit_build rootSpec tree.requests
    | cons index rest =>
        have built := wellNamed_build rootSpec tree.requests
        have reached := built.descend?_trail there
        obtain ⟨child, found, _⟩ := Option.bind_eq_some_iff.mp there
        have filled : (build rootSpec tree.requests).trail (index :: rest) ≠ [] := by
          simp [trail, found]
        have standing := named.standing?_rebuilt rootSpec
          (dotted ((build rootSpec tree.requests).trail (index :: rest)))
        rw [segments_dotted_of_dotless filled (built.dotless_of_descend reached), standing?,
          reached] at standing
        obtain ⟨_, _, same⟩ := Option.map_eq_some_iff.mp standing.symm
        exact (Prod.mk.inj same).1.symm

end JoinNode

/-- The paths of a tree that is built from requests list its nodes depth first: each of them once,
behind its ancestors and in front of all its descendants. They are the paths that some first names
of a requested path make. When each of them is requested with the spec of its node, the tree that is
built from these requests repeats the first one.
-/
theorem paths_list_nodes (rootSpec : JoinSpec) (requests : JoinRequests)
    : JoinNode.Lists (JoinNode.build rootSpec requests).paths (JoinNode.build rootSpec requests)
      ∧ (∀ path,
          path ∈ (JoinNode.build rootSpec requests).paths
          ↔ ∃ request ∈ requests,
              ∃ names, names ≠ [] ∧ names <+: segments request.1 ∧ path = dotted names)
      ∧ (JoinNode.build rootSpec requests).requests.Ascending
      ∧ (∀ path,
          (JoinNode.build rootSpec requests).requests.find? path
            = ((JoinNode.build rootSpec requests).descend? (segments path)).map (·.spec))
      ∧ (JoinNode.build rootSpec (JoinNode.build rootSpec requests).requests).Repeats
          (JoinNode.build rootSpec requests) := by
  have named := JoinNode.wellNamed_build rootSpec requests
  exact ⟨named.lists, JoinNode.mem_paths_build_iff rootSpec requests,
    JoinRequests.ascending_ofList _, named.find?_requests, named.repeats rootSpec⟩

/-- A node is listed in front of what lies below it, and that comes before all else. -/
example
    : (JoinNode.build {} [("a.b", {}), ("c", {}), ("a", {}), ("a.b.d", {})]).paths
        = ["a", "a.b", "a.b.d", "c"] := by
  cbv

end NestedSelect
