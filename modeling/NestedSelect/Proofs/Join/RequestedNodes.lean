import Mathlib.Data.List.Nodup
import NestedSelect.Proofs.Join.SortedRequests
import NestedSelect.Proofs.Join.TreePaths
/-!
The nodes of a requested tree. A node stands at a path exactly if the path has been requested or
some requested path goes on behind it. The last request for a path decides what its node holds, and
where there is none the first request beyond it does.
-/

namespace NestedSelect

-----------------------------------------------------------------------------------------
-- One request
-----------------------------------------------------------------------------------------

namespace JoinNode

/-- What stands at the end of some field names: whether the node is explicit, and its spec. -/
def standing? (tree : JoinNode) (names : List String) : Option (Bool × JoinSpec) :=
  (tree.descend? names).map fun node => (node.explicit, node.spec)

theorem standing?_nil (tree : JoinNode) : tree.standing? [] = some (tree.explicit, tree.spec) := rfl

theorem standing?_cons (tree : JoinNode) (fieldName : String) (rest : List String)
    : tree.standing? (fieldName :: rest)
        = (tree.child? fieldName).bind (·.standing? rest) := by
  rw [standing?, descend?, Option.map_bind]
  rfl

@[simp]
theorem fieldName_insert (spec : JoinSpec) (names : List String) (node : JoinNode)
    : (node.insert spec names).fieldName = node.fieldName := by
  cases names <;> rfl

/-- A change to the first child with a field name is found under that name, and no other child is
touched. By induction over the children.
-/
theorem find?_changeChild (fieldName asked : String) (change : JoinNode → JoinNode)
    (fresh : JoinNode) (children : List JoinNode)
    (keeps : ∀ node, (change node).fieldName = node.fieldName)
    (named : fresh.fieldName = fieldName)
    : (changeChild fieldName change fresh children).find? (·.fieldName = asked)
        = if asked = fieldName then
            some (change ((children.find? (·.fieldName = fieldName)).getD fresh))
          else children.find? (·.fieldName = asked) := by
  induction children with
  | nil =>
      by_cases same : asked = fieldName
      · simp [changeChild, keeps, named, same]
      · simp [changeChild, keeps, named, same, Ne.symm same]
  | cons node rest ih =>
      rw [changeChild]
      by_cases here : node.fieldName = fieldName
      · by_cases same : asked = fieldName
        · simp [keeps, here, same]
        · simp [keeps, here, same, Ne.symm same]
      · rw [if_neg here, List.find?_cons, List.find?_cons, List.find?_cons, ih]
        by_cases same : asked = fieldName
        · simp [here, same]
        · simp [same]

/-- Below a node a request changes the child that its first field name leads to. -/
theorem child?_insert (spec : JoinSpec) (fieldName asked : String) (rest : List String)
    (node : JoinNode)
    : (node.insert spec (fieldName :: rest)).child? asked
        = if asked = fieldName then
            some (insert spec rest ((node.child? fieldName).getD (implied fieldName spec.joinType)))
          else node.child? asked :=
  find?_changeChild fieldName asked (insert spec rest) (implied fieldName spec.joinType)
    node.children (fieldName_insert spec rest) rfl

theorem standing?_implied (fieldName : String) (joinType : JoinType) (names : List String)
    : (implied fieldName joinType).standing? names
        = if names = [] then some (false, { joinType }) else none := by
  cases names with
  | nil => rfl
  | cons first rest => rfl

/-- A request puts its spec at the end of its field names and makes the nodes on the way there that
are missing. Nothing else changes. By induction over the field names of the request.
-/
theorem standing?_insert (spec : JoinSpec) (names asked : List String) (node : JoinNode)
    : (node.insert spec names).standing? asked
        = if asked = names then some (true, spec)
          else if asked <+: names then
            some ((node.standing? asked).getD (false, { joinType := spec.joinType }))
          else node.standing? asked := by
  induction names generalizing asked node with
  | nil =>
      cases asked with
      | nil => rfl
      | cons first others => simp [standing?_cons, insert, child?]
  | cons fieldName rest ih =>
      cases asked with
      | nil => simp [standing?_nil, insert]
      | cons first others =>
          rw [standing?_cons, standing?_cons, child?_insert]
          by_cases same : first = fieldName
          · subst same
            rw [if_pos rfl, Option.bind_some, ih]
            simp only [List.cons_prefix_cons, List.cons.injEq, true_and]
            cases found : node.child? first with
            | some child => simp
            | none => cases others <;> simp [standing?_implied]
          · simp [same]

/-- A request for a path at another path: there it stands, on the way it leaves what is there or
makes a node, and elsewhere it leaves no trace.
-/
theorem standing?_insert_segments (tree : JoinNode) (request : String × JoinSpec) (path : String)
    : (tree.insert request.2 (segments request.1)).standing? (segments path)
        = if request.1 = path then some (true, request.2)
          else if Beyond path request.1 then
            some ((tree.standing? (segments path)).getD (false, { joinType := request.2.joinType }))
          else tree.standing? (segments path) := by
  rw [standing?_insert]
  by_cases same : request.1 = path
  · simp [same]
  · simp [segments_inj, segments_prefix_iff, same, Ne.symm same]

end JoinNode

-----------------------------------------------------------------------------------------
-- Names of requested nodes
-----------------------------------------------------------------------------------------

namespace JoinNode

/-- Changing a child keeps all names, and a fresh child comes last. -/
theorem names_changeChild (fieldName : String) (change : JoinNode → JoinNode) (fresh : JoinNode)
    (children : List JoinNode) (keeps : ∀ node, (change node).fieldName = node.fieldName)
    (named : fresh.fieldName = fieldName)
    : (changeChild fieldName change fresh children).map (·.fieldName)
        = if fieldName ∈ children.map (·.fieldName) then children.map (·.fieldName)
          else children.map (·.fieldName) ++ [fieldName] := by
  induction children with
  | nil => simp [changeChild, keeps, named]
  | cons node rest ih =>
      rw [changeChild]
      by_cases here : node.fieldName = fieldName
      · simp [here, keeps]
      · rw [if_neg here, List.map_cons, ih, List.map_cons]
        by_cases later : fieldName ∈ rest.map (·.fieldName)
        · rw [if_pos later, if_pos (List.mem_cons_of_mem _ later)]
        · rw [if_neg later, if_neg (by simp_all [Ne.symm here]), List.cons_append]

theorem mem_changeChild {fieldName : String} {change : JoinNode → JoinNode}
    {fresh node : JoinNode} {children : List JoinNode}
    (member : node ∈ changeChild fieldName change fresh children)
    : node ∈ children
      ∨ ∃ changed, (changed = fresh ∨ changed ∈ children) ∧ node = change changed := by
  induction children with
  | nil => exact .inr ⟨fresh, .inl rfl, List.mem_singleton.mp member⟩
  | cons first rest ih =>
      rw [changeChild] at member
      split at member
      · rcases List.mem_cons.mp member with rfl | behind
        · exact .inr ⟨first, .inr (by simp), rfl⟩
        · exact .inl (List.mem_cons_of_mem _ behind)
      · rcases List.mem_cons.mp member with rfl | behind
        · exact .inl (by simp)
        · refine (ih behind).imp (List.mem_cons_of_mem _) ?_
          exact fun ⟨changed, origin, same⟩ =>
            ⟨changed, origin.imp_right (List.mem_cons_of_mem _), same⟩

/-- A request keeps what holds of the names at every level, if that holds of no names and is kept
where one of its own names is new. By induction over the names of the request.
-/
theorem EveryLevel.insert {property : List String → Prop} {names : List String}
    {node : JoinNode} (every : node.EveryLevel property) (bare : property [])
    (added
      : ∀ held, ∀ name ∈ names, name ∉ held → property held → property (held ++ [name]))
    (spec : JoinSpec)
    : (JoinNode.insert spec names node).EveryLevel property := by
  induction names generalizing node with
  | nil => exact .of_children every.top fun child member => every.child member
  | cons fieldName rest ih =>
      have later := fun {below : JoinNode} (every : below.EveryLevel property) =>
        ih every fun held name member => added held name (List.mem_cons_of_mem _ member)
      refine .of_children ?_ ?_
      · rw [JoinNode.insert, names_changeChild fieldName _ _ _ (fieldName_insert spec rest) rfl]
        split
        · exact every.top
        · exact added _ fieldName (by simp) (by assumption) every.top
      · intro child member
        rcases mem_changeChild member with kept | ⟨changed, rfl | origin, rfl⟩
        · exact every.child kept
        · exact later (.of_children bare (by simp [implied]))
        · exact later (every.child origin)

/-- What holds of no names and is kept where a new name without dots is added holds at every level
of a tree that is built from requests. By induction over the requests.
-/
theorem everyLevel_build {property : List String → Prop} (bare : property [])
    (added
      : ∀ held name, '.' ∉ name.toList → name ∉ held → property held → property (held ++ [name]))
    (rootSpec : JoinSpec) (requests : List (String × JoinSpec))
    : (build rootSpec requests).EveryLevel property := by
  refine List.foldlRecOn requests _ (.of_children bare (by simp [root])) ?_
  intro tree every request _
  refine every.insert bare (fun held name member => ?_) request.2
  exact added held name (dot_not_mem_of_mem_segments member)

/-- A tree that is built from requests has no siblings of the same name. -/
theorem distinctSiblings_build (rootSpec : JoinSpec) (requests : List (String × JoinSpec))
    : (build rootSpec requests).DistinctSiblings := by
  refine everyLevel_build List.nodup_nil (fun held name _ new distinct => ?_) rootSpec requests
  refine List.nodup_append.mpr ⟨distinct, by simp, ?_⟩
  rintro other member last single rfl
  exact new (List.mem_singleton.mp single ▸ member)

/-- A tree that is built from requests has no names with dots. -/
theorem dotlessNames_build (rootSpec : JoinSpec) (requests : List (String × JoinSpec))
    : (build rootSpec requests).DotlessNames := by
  refine everyLevel_build (by simp) (fun held name dotless _ all => ?_) rootSpec requests
  intro other member
  rcases List.mem_append.mp member with before | last
  · exact all other before
  · exact List.mem_singleton.mp last ▸ dotless

end JoinNode

-----------------------------------------------------------------------------------------
-- All requests
-----------------------------------------------------------------------------------------

/-- The last of some requests for a path. -/
def lastFor? (path : String) (requests : List (String × JoinSpec)) : Option (String × JoinSpec) :=
  (requests.filter (·.1 = path)).getLast?

/-- The first of some requests that go on behind a path. -/
def firstBeyond? (path : String) (requests : List (String × JoinSpec))
    : Option (String × JoinSpec) :=
  requests.find? fun request => Beyond path request.1

theorem lastFor?_cons (path : String) (request : String × JoinSpec)
    (rest : List (String × JoinSpec))
    : lastFor? path (request :: rest)
        = (lastFor? path rest).or (if request.1 = path then some request else none) := by
  rw [lastFor?, lastFor?, List.filter_cons]
  by_cases same : request.1 = path
  · cases others : (rest.filter (·.1 = path)).getLast? <;> simp [List.getLast?_cons, others, same]
  · simp [same]

theorem firstBeyond?_cons (path : String) (request : String × JoinSpec)
    (rest : List (String × JoinSpec))
    : firstBeyond? path (request :: rest)
        = if Beyond path request.1 then some request else firstBeyond? path rest := by
  rw [firstBeyond?, List.find?_cons]
  by_cases beyond : Beyond path request.1 <;> simp [beyond, firstBeyond?]

namespace JoinNode

/-- After some requests a path holds the spec of the last one for it. Without one it holds what it
held before, or else the join type of the first request beyond it. By induction over the requests,
with the tree as it stands before each.
-/
theorem standing?_foldl (tree : JoinNode) (requests : List (String × JoinSpec)) (path : String)
    : (requests.foldl (fun tree request => tree.insert request.2 (segments request.1))
          tree).standing? (segments path)
        = ((lastFor? path requests).map fun request => (true, request.2)).or
            ((tree.standing? (segments path)).or
              ((firstBeyond? path requests).map fun request =>
                (false, { joinType := request.2.joinType }))) := by
  induction requests generalizing tree with
  | nil => simp [lastFor?, firstBeyond?]
  | cons request rest ih =>
      rw [List.foldl_cons, ih, standing?_insert_segments, lastFor?_cons, firstBeyond?_cons]
      by_cases same : request.1 = path
      · cases lastFor? path rest <;> simp [same]
      · by_cases beyond : Beyond path request.1
        · cases tree.standing? (segments path) <;> simp [same, beyond]
        · simp [same, beyond]

/-- What stands in a tree that is built from requests. -/
theorem standing?_build (rootSpec : JoinSpec) (requests : List (String × JoinSpec))
    (path : String)
    : (build rootSpec requests).standing? (segments path)
        = ((lastFor? path requests).map fun request => (true, request.2)).or
            ((firstBeyond? path requests).map fun request =>
              (false, { joinType := request.2.joinType })) := by
  have bare : (root rootSpec).standing? (segments path) = none := by
    cases names : segments path with
    | nil => exact absurd names (segments_ne_nil path)
    | cons first rest => rfl
  rw [build, standing?_foldl, bare, Option.none_or]

end JoinNode

theorem lastFor?_eq_none_iff {path : String} {requests : List (String × JoinSpec)}
    : lastFor? path requests = none ↔ ∀ request ∈ requests, request.1 ≠ path := by
  simp [lastFor?]

theorem of_lastFor?_eq_some {path : String} {requests : List (String × JoinSpec)}
    {request : String × JoinSpec} (found : lastFor? path requests = some request)
    : request ∈ requests ∧ request.1 = path := by
  simpa using List.mem_filter.mp (List.mem_of_getLast? found)

theorem lastFor?_append_cons (before after : List (String × JoinSpec)) (path : String)
    (spec : JoinSpec) (last : ∀ later ∈ after, later.1 ≠ path)
    : lastFor? path (before ++ (path, spec) :: after) = some (path, spec) := by
  have none : after.filter (·.1 = path) = [] := by simpa using last
  simp [lastFor?, none]

theorem firstBeyond?_append_cons (before after : List (String × JoinSpec)) (path : String)
    (request : String × JoinSpec) (beyond : Beyond path request.1)
    (first : ∀ earlier ∈ before, ¬Beyond path earlier.1)
    : firstBeyond? path (before ++ request :: after) = some request := by
  have none : (before.find? fun earlier => Beyond path earlier.1) = none := by simpa using first
  simp [firstBeyond?, List.find?_append, none, beyond]

/-- What some requests, made one after another, leave at a path of the tree. -/
structure HeldAt (requests : List (String × JoinSpec)) (tree : JoinNode) (path : String)
    : Prop where
  /-- A node is reached if the path or one beyond it has been requested, and only then. -/
  reached
    : (∃ node, tree.descend? (segments path) = some node)
      ↔ ∃ request ∈ requests, request.1 = path ∨ Beyond path request.1
  /-- Of the requests for the path the last one counts. -/
  requested
    : ∀ before spec after node,
        requests = before ++ (path, spec) :: after
        → (∀ later ∈ after, later.1 ≠ path)
        → tree.descend? (segments path) = some node
        → node.explicit = true ∧ node.spec = spec
  /-- Without a request for the path it is the first one beyond it that counts. -/
  passed
    : ∀ before first after node,
        (∀ request ∈ requests, request.1 ≠ path)
        → requests = before ++ first :: after
        → Beyond path first.1
        → (∀ earlier ∈ before, ¬Beyond path earlier.1)
        → tree.descend? (segments path) = some node
        → node.explicit = false ∧ node.spec = { joinType := first.2.joinType }

/-- Two trees have the same nodes, of which the same are explicit, and those with the same specs. -/
structure SameRequested (left right : JoinNode) : Prop where
  paths : ∀ path, path ∈ left.paths ↔ path ∈ right.paths
  specs
    : ∀ path leftNode rightNode,
        left.descend? (segments path) = some leftNode
        → right.descend? (segments path) = some rightNode
        → leftNode.explicit = rightNode.explicit
          ∧ (leftNode.explicit = true → leftNode.spec = rightNode.spec)

namespace JoinNode

variable (rootSpec : JoinSpec) (requests : List (String × JoinSpec)) (path : String)

/-- No path is that of the root, so the root keeps its spec. By induction over the requests. -/
theorem spec_build : (build rootSpec requests).spec = rootSpec := by
  refine List.foldlRecOn requests _ (motive := fun tree : JoinNode => tree.spec = rootSpec) rfl ?_
  intro tree kept request _
  cases names : segments request.1 with
  | nil => exact absurd names (segments_ne_nil request.1)
  | cons first rest => exact kept

theorem exists_descend?_build_iff
    : (∃ node, (build rootSpec requests).descend? (segments path) = some node)
      ↔ ∃ request ∈ requests, request.1 = path ∨ Beyond path request.1 := by
  have found
      : (∃ node, (build rootSpec requests).descend? (segments path) = some node)
        ↔ ((build rootSpec requests).standing? (segments path)).isSome = true := by
    rw [standing?, Option.isSome_map, Option.isSome_iff_exists]
  have last
      : (lastFor? path requests).isSome = true ↔ ∃ request ∈ requests, request.1 = path := by
    rw [Option.isSome_iff_ne_none, ne_eq, lastFor?_eq_none_iff]
    simp
  have first
      : (firstBeyond? path requests).isSome = true
        ↔ ∃ request ∈ requests, Beyond path request.1 := by
    simp [firstBeyond?]
  rw [found, standing?_build, Option.isSome_or, Option.isSome_map, Option.isSome_map,
    Bool.or_eq_true, last, first, ← exists_or]
  simp only [and_or_left]

theorem heldAt_build : HeldAt requests (build rootSpec requests) path where
  reached := exists_descend?_build_iff rootSpec requests path
  requested := by
    rintro before spec after node rfl last reached
    have standing := standing?_build rootSpec (before ++ (path, spec) :: after) path
    rw [standing?, reached, lastFor?_append_cons before after path spec last] at standing
    exact Prod.mk.inj (Option.some.inj standing)
  passed := by
    rintro before first after node unrequested rfl beyond earliest reached
    have standing := standing?_build rootSpec (before ++ first :: after) path
    rw [standing?, reached, lastFor?_eq_none_iff.mpr unrequested,
      firstBeyond?_append_cons before after path first beyond earliest] at standing
    exact Prod.mk.inj (Option.some.inj standing)

/-- An explicit node holds the spec of a request for its path. For other nodes there is no request.
-/
theorem requested_or_not {node : JoinNode}
    (reached : (build rootSpec requests).descend? (segments path) = some node)
    : node.explicit = true ∧ (path, node.spec) ∈ requests
      ∨ node.explicit = false ∧ ∀ request ∈ requests, request.1 ≠ path := by
  have standing := standing?_build rootSpec requests path
  rw [standing?, reached, Option.map_some] at standing
  cases last : lastFor? path requests with
  | some request =>
      obtain ⟨member, rfl⟩ := of_lastFor?_eq_some last
      rw [last] at standing
      obtain ⟨explicit, spec⟩ := Prod.mk.inj (Option.some.inj standing)
      exact .inl ⟨explicit, spec ▸ member⟩
  | none =>
      refine .inr ⟨?_, lastFor?_eq_none_iff.mp last⟩
      rw [last, Option.map_none, Option.none_or] at standing
      obtain ⟨first, _, same⟩ := Option.map_eq_some_iff.mp standing.symm
      exact (Prod.mk.inj same).1.symm

/-- The order of requests for different paths decides neither the nodes nor which of them are
explicit, nor what those hold.
-/
theorem sameRequested_of_perm {others : List (String × JoinSpec)} (same : requests.Perm others)
    (apart : (requests.map (·.1)).Nodup)
    : SameRequested (build rootSpec requests) (build rootSpec others) where
  paths := by
    intro path
    rw [mem_paths_iff (distinctSiblings_build rootSpec requests)
        (dotlessNames_build rootSpec requests),
      mem_paths_iff (distinctSiblings_build rootSpec others) (dotlessNames_build rootSpec others),
      exists_descend?_build_iff, exists_descend?_build_iff]
    simp only [same.mem_iff]
  specs := by
    intro path left right leftReached rightReached
    rcases requested_or_not rootSpec requests path leftReached with
      ⟨leftExplicit, leftMember⟩ | ⟨leftImplied, leftNone⟩
    · rcases requested_or_not rootSpec others path rightReached with
        ⟨rightExplicit, rightMember⟩ | ⟨_, rightNone⟩
      · have both := List.inj_on_of_nodup_map apart leftMember (same.mem_iff.mpr rightMember) rfl
        exact ⟨leftExplicit.trans rightExplicit.symm, fun _ => (Prod.mk.inj both).2⟩
      · exact absurd rfl (rightNone _ (same.mem_iff.mp leftMember))
    · rcases requested_or_not rootSpec others path rightReached with
        ⟨_, rightMember⟩ | ⟨rightImplied, _⟩
      · exact absurd rfl (leftNone _ (same.mem_iff.mpr rightMember))
      · refine ⟨leftImplied.trans rightImplied.symm, fun explicit => ?_⟩
        rw [leftImplied] at explicit
        contradiction

end JoinNode

/-- A tree that is built from requests in any order, repeated ones included, keeps the spec of its
root, has no siblings of the same name and holds at each path what the requests leave there. From
requests in the order of their paths it holds the spec that is found for each path. Requests for
different paths make the same nodes in any order.
-/
theorem build_holds_requests (rootSpec : JoinSpec) (requests : List (String × JoinSpec))
    : (JoinNode.build rootSpec requests).spec = rootSpec
      ∧ (JoinNode.build rootSpec requests).DistinctSiblings
      ∧ (∀ path, HeldAt requests (JoinNode.build rootSpec requests) path)
      ∧ (JoinRequests.Ascending requests
        → ∀ path spec,
            JoinRequests.find? requests path = some spec
            → ∃ node,
                (JoinNode.build rootSpec requests).descend? (segments path) = some node
                ∧ node.explicit = true
                ∧ node.spec = spec)
      ∧ ∀ others,
          requests.Perm others
          → (requests.map (·.1)).Nodup
          → SameRequested (JoinNode.build rootSpec requests) (JoinNode.build rootSpec others) := by
  refine ⟨JoinNode.spec_build rootSpec requests, JoinNode.distinctSiblings_build rootSpec requests,
    JoinNode.heldAt_build rootSpec requests, ?_, fun others same apart =>
      JoinNode.sameRequested_of_perm rootSpec requests same apart⟩
  intro ascending path spec found
  have held := JoinNode.heldAt_build rootSpec requests path
  obtain ⟨before, after, split, last⟩ := ascending.split found
  obtain ⟨node, reached⟩ := held.reached.mpr ⟨(path, spec), by simp [split], .inl rfl⟩
  exact ⟨node, reached, held.requested before spec after node split last reached⟩

/-- Dots at the ends of a path and an empty path name nodes as well. -/
example
    : (JoinNode.build {} [("a.b", { joinType := .inner }), ("a.", {}), ("", {})]).paths
        = ["a", "a.b", "a.", ""] :=
  rfl

/-- Requests in the order of their paths, two of which pass through songs. -/
def songRequests : JoinRequests :=
  [("profile", { joinType := .right }), ("songs.tracks", { joinType := .inner }),
    ("songs.user", {})]

/-- The songs' user is left joined as requested, and the requests make the same nodes backwards. -/
theorem build_holds_requests_of_songs
    : songRequests.Ascending
      ∧ songRequests.Perm songRequests.reverse
      ∧ (songRequests.map (·.1)).Nodup
      ∧ (∃ node,
          (JoinNode.build {} songRequests).descend? (segments "songs.user") = some node
          ∧ node.explicit = true
          ∧ node.spec = {})
      ∧ SameRequested (JoinNode.build {} songRequests)
          (JoinNode.build {} songRequests.reverse) := by
  have ascending : songRequests.Ascending := by
    unfold JoinRequests.Ascending
    decide
  have backwards : songRequests.Perm songRequests.reverse := songRequests.reverse_perm.symm
  have apart : (songRequests.map (·.1)).Nodup := by decide
  obtain ⟨_, _, _, found, same⟩ := build_holds_requests {} songRequests
  exact ⟨ascending, backwards, apart, found ascending "songs.user" {} rfl, same _ backwards apart⟩

end NestedSelect
