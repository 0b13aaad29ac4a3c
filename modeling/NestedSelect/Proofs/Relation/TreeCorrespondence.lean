import Mathlib.Data.Set.Function
import NestedSelect.Proofs.Join.Addresses
import NestedSelect.Proofs.Relation.BuiltTree
/-!
Built trees mirror their join trees. A node of a tree is addressed by the way down to it, and a
build maps the addresses of the join tree one to one onto those of the relation tree, parents onto
parents. What stands at the image of an address is decided by the node there, and by the schema
that is reached by following its field names.
-/

namespace NestedSelect

variable {size : Nat}

-----------------------------------------------------------------------------------------
-- Addresses
-----------------------------------------------------------------------------------------

/-- The children of a relation, first those with one row and then those with many. -/
def Relation.children (relation : Relation) : List (RelationKind × Joined Relation) :=
  relation.one.map (.one, ·) ++ relation.many.map (.many, ·)

/-- The relation of a tree at an address. -/
def Relation.at? : Relation → Address → Option Relation
  | relation, [] => some relation
  | relation, index :: rest => relation.children[index]?.bind (·.2.relation.at? rest)

/-- The resolved schema that is reached by following field names from a resolved schema. -/
def Catalog.follow (catalog : Catalog size) : Schema size → List String → Option (Schema size)
  | schema, [] => some schema
  | schema, fieldName :: rest =>
    (schema.findRelation? fieldName).bind fun link =>
      ((catalog link.target).resolve catalog).toOption.bind fun target =>
        catalog.follow target rest

/-- The addresses of a tree whose root has so many children, each the root of a smaller tree. -/
def graft (count : Nat) (below : Nat → Set Address) : Set Address :=
  { address |
    match address with
    | [] => True
    | index :: rest => index < count ∧ rest ∈ below index }

/-- A map of addresses that takes each child of the root to a slot, and all below it along. -/
def glue (slot : Nat → Nat) (images : Nat → Address → Address) : Address → Address
  | [] => []
  | index :: rest => slot index :: images index rest

/-- Trees are mapped one to one if their roots have as many children, and the children are mapped
one to one along with the trees below them.
-/
theorem bijOn_glue {count : Nat} {sources targets : Nat → Set Address} {slot : Nat → Nat}
    {images : Nat → Address → Address}
    (slots : Set.BijOn slot { index | index < count } { index | index < count })
    (each : ∀ index < count, Set.BijOn (images index) (sources index) (targets (slot index)))
    : Set.BijOn (glue slot images) (graft count sources) (graft count targets) := by
  refine ⟨?mapsTo, ?injective, ?surjective⟩
  case mapsTo =>
    intro address member
    cases address with
    | nil => trivial
    | cons index rest =>
        obtain ⟨bound, inside⟩ := member
        exact ⟨slots.mapsTo bound, (each index bound).mapsTo inside⟩
  case injective =>
    intro first firstMember second secondMember same
    cases first with
    | nil =>
        cases second with
        | nil => rfl
        | cons index rest => simp [glue] at same
    | cons index rest =>
        cases second with
        | nil => simp [glue] at same
        | cons other others =>
            obtain ⟨bound, inside⟩ := firstMember
            obtain ⟨otherBound, otherInside⟩ := secondMember
            obtain ⟨head, tail⟩ := List.cons.inj same
            obtain rfl := slots.injOn bound otherBound head
            rw [(each index bound).injOn inside otherInside tail]
  case surjective =>
    intro address member
    cases address with
    | nil => exact ⟨[], trivial, rfl⟩
    | cons index rest =>
        obtain ⟨bound, inside⟩ := member
        obtain ⟨source, sourceBound, rfl⟩ := slots.surjOn bound
        obtain ⟨origin, originInside, rfl⟩ := (each source sourceBound).surjOn inside
        exact ⟨source :: origin, ⟨sourceBound, originInside⟩, rfl⟩

/-- A list and a rearrangement of it have the same members at matching indices. -/
theorem exists_bijOn_of_perm {α : Type} {left right : List α} (same : left.Perm right)
    : ∃ slot : Nat → Nat,
        Set.BijOn slot { index | index < left.length } { index | index < left.length }
        ∧ ∀ index < left.length, right[slot index]? = left[index]? := by
  classical
  let slot (index : Nat) : Nat :=
    if bound : index < left.length then same.idxBij ⟨index, bound⟩ else index
  have slot_eq (index : Nat) (bound : index < left.length)
      : slot index = same.idxBij ⟨index, bound⟩ := dif_pos bound
  refine ⟨slot, ⟨?mapsTo, ?injective, ?surjective⟩, ?members⟩
  case mapsTo =>
    intro index bound
    exact (slot_eq index bound).trans_lt ((same.idxBij _).isLt.trans_eq same.length_eq.symm)
  case injective =>
    intro first firstBound second secondBound equal
    rw [slot_eq first firstBound, slot_eq second secondBound] at equal
    exact Fin.mk.inj (same.idxBij_injective (Fin.ext equal))
  case surjective =>
    intro index bound
    obtain ⟨source, found⟩ :=
      same.idxBij_surjective ⟨index, Nat.lt_of_lt_of_eq bound same.length_eq⟩
    exact ⟨source, source.isLt, by rw [slot_eq source source.isLt, found]⟩
  case members =>
    intro index bound
    have member := same.getElem_idxBij_eq_getElem ⟨index, bound⟩
    rw [slot_eq index bound, List.getElem?_eq_getElem (same.idxBij _).isLt, member,
      List.getElem?_eq_getElem bound]

-----------------------------------------------------------------------------------------
-- Correspondence
-----------------------------------------------------------------------------------------

/-- The relation corresponds to a node whose field names lead to the schema along the path, and each
child of the node has its slot among the children of the relation.
-/
structure Schema.Corresponds (schema : Schema size) (path : String) (node : JoinNode)
    (relation : Relation) (slot : Nat → Nat) : Prop where
  path : relation.use.path = path
  table : schema.tableName = some relation.use.table
  primaryKey : relation.use.primaryKey = schema.primaryKey
  fields : relation.use.fields = schema.fields
  spec : relation.use.spec = node.spec
  /-- Every child is in the list of its kind, with the names that its link gives it. -/
  joined
    : ∀ index child,
        node.children[index]? = some child
        → ∃ link joined,
            schema.findRelation? child.fieldName = some link
            ∧ relation.children[slot index]? = some (link.kind, joined)
            ∧ joined.relation.use.aliasName = relation.use.aliasName ++ "." ++ link.jsonKey
            ∧ joined.keys.jsonKey = link.jsonKey
            ∧ joined.keys.foreignKey = link.foreignKey
            ∧ some joined.keys.referencedKey
              = match link.kind with
                | .one => joined.relation.use.primaryKey
                | .many => relation.use.primaryKey
  /-- Children of one kind are in the order in which their links are declared. -/
  declared
    : ∀ first second firstChild secondChild kind firstJoined secondJoined,
        node.children[first]? = some firstChild
        → node.children[second]? = some secondChild
        → relation.children[slot first]? = some (kind, firstJoined)
        → relation.children[slot second]? = some (kind, secondJoined)
        → slot first < slot second
        → schema.relationPosition firstChild.fieldName
          ≤ schema.relationPosition secondChild.fieldName

/-- The map takes the nodes of the join tree one to one to those of the relation tree, parents to
parents, and each node to a relation that corresponds to it. The trees hang below a resolved schema
at the end of a trail.
-/
structure Mirrors (catalog : Catalog size) (schema : Schema size) (trail : List String)
    (tree : JoinNode) (relation : Relation) (image : Address → Address) : Prop where
  bijective
    : Set.BijOn image { address | (tree.at? address).isSome }
        { address | (relation.at? address).isSome }
  root : image [] = []
  nodes
    : ∀ address node,
        tree.at? address = some node
        → ∃ reached standing slot,
            catalog.follow schema (tree.trail address) = some reached
            ∧ relation.at? (image address) = some standing
            ∧ (∀ index < node.children.length,
                image (address ++ [index]) = image address ++ [slot index])
            ∧ reached.Corresponds (dotted (trail ++ tree.trail address)) node standing slot

-----------------------------------------------------------------------------------------
-- Relations that stand for nodes mirror them
-----------------------------------------------------------------------------------------

/-- The children of a node in the order of its relation: those with one row come first. -/
def arrangedByKind (declared : List (PlacedChild size)) : List (PlacedChild size) :=
  declared.filter (·.link.kind = .one) ++ declared.filter (·.link.kind = .many)

theorem arrangedByKind_perm (declared : List (PlacedChild size))
    : (arrangedByKind declared).Perm declared := by
  have many : ∀ child : PlacedChild size,
      decide (child.link.kind = .many) = !decide (child.link.kind = .one) := by
    intro child
    cases child.link.kind <;> rfl
  rw [arrangedByKind, List.filter_congr fun child _ => many child]
  exact List.filter_append_perm _ declared

theorem children_eq_arrangedByKind (use : TableUse) (declared : List (PlacedChild size))
    : Relation.children ⟨use, joinedOfKind .one declared, joinedOfKind .many declared⟩
        = (arrangedByKind declared).map fun child => (child.link.kind, child.joined) := by
  have tagged (kind : RelationKind)
      : (joinedOfKind kind declared).map (kind, ·)
        = (declared.filter (·.link.kind = kind)).map fun child =>
            (child.link.kind, child.joined) := by
    rw [joinedOfKind, List.map_map]
    refine List.map_congr_left fun child member => ?_
    rw [Function.comp_apply, of_decide_eq_true (List.mem_filter.mp member).2]
  rw [Relation.children, tagged, tagged, arrangedByKind, List.map_append]

/-- Children of one kind keep their order when the kinds are told apart. -/
theorem arrangedByKind_pairwise {position : PlacedChild size → Nat}
    {declared : List (PlacedChild size)}
    (inOrder : declared.Pairwise fun first second => position first ≤ position second)
    : (arrangedByKind declared).Pairwise fun first second =>
        first.link.kind = second.link.kind → position first ≤ position second := by
  have part (kind : RelationKind)
      : (declared.filter (·.link.kind = kind)).Pairwise fun first second =>
          first.link.kind = second.link.kind → position first ≤ position second := by
    refine List.Pairwise.imp ?_ (inOrder.sublist List.filter_sublist)
    exact fun before _ => before
  refine List.pairwise_append.mpr ⟨part .one, part .many, ?_⟩
  intro first firstMember second secondMember same
  rw [of_decide_eq_true (List.mem_filter.mp firstMember).2,
    of_decide_eq_true (List.mem_filter.mp secondMember).2] at same
  contradiction

/-- What stands for a node corresponds to it at the top, where the slots are those of the children
that are told apart by kind.
-/
theorem PlacedChild.corresponds {catalog : Catalog size} {place : Place size} {node : JoinNode}
    {children declared : List (PlacedChild size)} {slot : Nat → Nat}
    (all : children.map (·.node) = node.children)
    (inOrder
      : declared.Pairwise fun first second =>
          place.schema.relationPosition first.node.fieldName
            ≤ place.schema.relationPosition second.node.fieldName)
    (fits : ∀ child ∈ children, child.Fits catalog place)
    (below : ∀ child ∈ children, Stands catalog child.place child.node child.joined.relation)
    (slotted : ∀ index < children.length, (arrangedByKind declared)[slot index]? = children[index]?)
    (table : place.schema.tableName = some place.table)
    : place.schema.Corresponds place.path node
        ⟨place.use node.spec, joinedOfKind .one declared, joinedOfKind .many declared⟩ slot := by
  have placed (index : Nat) (child : JoinNode) (found : node.children[index]? = some child)
      : ∃ placed,
          children[index]? = some placed
          ∧ placed.node = child
          ∧ (arrangedByKind declared)[slot index]? = some placed := by
    rw [← all, List.getElem?_map, Option.map_eq_some_iff] at found
    obtain ⟨placed, there, same⟩ := found
    exact ⟨placed, there, same, (slotted index (List.getElem?_eq_some_iff.mp there).1).trans there⟩
  refine ⟨rfl, table, rfl, rfl, rfl, ?joined, ?declared⟩
  case joined =>
    intro index child found
    obtain ⟨placed, there, rfl, arranged⟩ := placed index child found
    have member := List.mem_of_getElem? there
    have fit := fits placed member
    have use := (below placed member).use
    refine ⟨placed.link, placed.joined, fit.found, ?_, ?_, fit.jsonKey, fit.foreignKey, ?_⟩
    · rw [children_eq_arrangedByKind, List.getElem?_map, arranged, Option.map_some]
    · rw [use]
      exact fit.aliasName
    · rw [use, ← fit.referencedKey]
      cases placed.link.kind <;> rfl
  case declared =>
    intro first second firstChild secondChild kind firstJoined secondJoined firstFound secondFound
      firstThere secondThere before
    obtain ⟨one, _, rfl, oneArranged⟩ := placed first firstChild firstFound
    obtain ⟨other, _, rfl, otherArranged⟩ := placed second secondChild secondFound
    rw [children_eq_arrangedByKind, List.getElem?_map, oneArranged] at firstThere
    rw [children_eq_arrangedByKind, List.getElem?_map, otherArranged] at secondThere
    obtain ⟨oneBound, rfl⟩ := List.getElem?_eq_some_iff.mp oneArranged
    obtain ⟨otherBound, rfl⟩ := List.getElem?_eq_some_iff.mp otherArranged
    refine List.pairwise_iff_getElem.mp (arrangedByKind_pairwise inOrder) _ _ oneBound otherBound
      before ?_
    exact (congrArg Prod.fst (Option.some.inj firstThere)).trans
      (congrArg Prod.fst (Option.some.inj secondThere)).symm

/-- The addresses of a tree are its root and those below the children of the root. -/
theorem addresses_eq_graft {α : Type} (items : List α) (below : α → Set Address)
    (tree : Set Address) (root : [] ∈ tree)
    (inside
      : ∀ index rest,
          index :: rest ∈ tree ↔ ∃ item, items[index]? = some item ∧ rest ∈ below item)
    : tree = graft items.length fun index =>
        { rest | ∃ item, items[index]? = some item ∧ rest ∈ below item } := by
  ext address
  cases address with
  | nil => exact iff_of_true root trivial
  | cons index rest =>
      rw [inside]
      constructor
      · rintro ⟨item, found, member⟩
        exact ⟨(List.getElem?_eq_some_iff.mp found).1, item, found, member⟩
      · exact fun member => member.2

/-- A relation that stands for a node mirrors the tree below the node. By induction over what
stands: the maps of the children are glued together, each below its slot.
-/
theorem Stands.mirrors {catalog : Catalog size} (named : catalog.Named) {place : Place size}
    {node : JoinNode} {relation : Relation} (stands : Stands catalog place node relation)
    : ∀ {trail : List String},
        place.EndsTrail trail
        → place.schema.tableName = some place.table
        → ∃ image, Mirrors catalog place.schema trail node relation image := by
  induction stands with
  | @intro place node children declared all same inOrder fits below ih =>
      intro trail ends table
      have each (index : Nat)
          : ∃ image,
              ∀ child,
                children[index]? = some child
                → Mirrors catalog child.place.schema (trail ++ [child.node.fieldName]) child.node
                    child.joined.relation image := by
        cases found : children[index]? with
        | none => exact ⟨id, fun child impossible => by contradiction⟩
        | some child =>
            have member := List.mem_of_getElem? found
            have fit := fits child member
            obtain ⟨link, name⟩ := Schema.findRelation?_named fit.found
            have childEnds : child.place.EndsTrail (trail ++ [child.node.fieldName]) := by
              rw [← name]
              exact ends.child link (by rw [name, fit.path]) (named.resolved fit.resolves)
            obtain ⟨image, mirrors⟩ := ih child member childEnds fit.table
            exact ⟨image, fun other same => Option.some.inj same ▸ mirrors⟩
      choose images mirrored using each
      have rearranged : children.Perm (arrangedByKind declared) :=
        ((arrangedByKind_perm declared).trans same).symm
      obtain ⟨slot, slots, slotted⟩ := exists_bijOn_of_perm rearranged
      have child_at (index : Nat) : node.children[index]? = children[index]?.map (·.node) := by
        rw [← all, List.getElem?_map]
      refine ⟨glue slot images, ?bijective, rfl, ?nodes⟩
      case bijective =>
        have source := addresses_eq_graft children
          (fun child => { rest | (child.node.at? rest).isSome })
          { address | (node.at? address).isSome } rfl fun index rest => by
            cases found : children[index]? <;> simp [JoinNode.at?, child_at, found]
        have target := addresses_eq_graft (arrangedByKind declared)
          (fun child => { rest | (child.joined.relation.at? rest).isSome })
          { address |
            (Relation.at?
              ⟨place.use node.spec, joinedOfKind .one declared, joinedOfKind .many declared⟩
              address).isSome } rfl fun index rest => by
            cases found : (arrangedByKind declared)[index]? <;>
              simp [Relation.at?, children_eq_arrangedByKind, found]
        rw [source, target, ← rearranged.length_eq]
        refine bijOn_glue slots fun index bound => ?_
        have found := List.getElem?_eq_getElem bound
        simpa [slotted index bound, found] using (mirrored index _ found).bijective
      case nodes =>
        intro address node' there
        cases address with
        | nil =>
            obtain rfl := Option.some.inj there
            have count : children.length = node.children.length := by
              rw [← all, List.length_map]
            refine ⟨place.schema, _, slot, rfl, rfl, fun index bound => ?_, ?_⟩
            · have found := List.getElem?_eq_getElem (count ▸ bound)
              change slot index :: images index [] = [slot index]
              rw [(mirrored index _ found).root]
            · rw [JoinNode.trail, List.append_nil, ← ends.path]
              exact PlacedChild.corresponds all inOrder fits below slotted table
        | cons index rest =>
            rw [JoinNode.at?, child_at] at there
            cases found : children[index]? with
            | none => simp [found] at there
            | some child =>
                rw [found] at there
                obtain ⟨reached, standing, inner, follows, stands, deeper, corresponds⟩ :=
                  (mirrored index child found).nodes rest node' there
                have bound := (List.getElem?_eq_some_iff.mp found).1
                have fit := fits child (List.mem_of_getElem? found)
                have trail_eq
                    : node.trail (index :: rest)
                      = child.node.fieldName :: child.node.trail rest := by
                  rw [JoinNode.trail, child_at, found]
                  rfl
                refine ⟨reached, standing, inner, ?_, ?_, fun next inside => ?_, ?_⟩
                · rw [trail_eq, Catalog.follow, fit.found, Option.bind_some, fit.resolves]
                  exact follows
                · rw [glue, Relation.at?, children_eq_arrangedByKind, List.getElem?_map,
                    slotted index bound, found]
                  exact stands
                · rw [List.cons_append, glue, glue, deeper next inside, List.cons_append]
                · rw [trail_eq, List.append_cons]
                  exact corresponds

/-- Only the root has an empty path, as long as all relations have names. -/
theorem Mirrors.path_eq_empty_iff {catalog : Catalog size} {schema : Schema size}
    {tree : JoinNode} {relation : Relation} {image : Address → Address}
    (mirrors : Mirrors catalog schema [] tree relation image)
    (named : ∀ link ∈ schema.relations, link.fieldName ≠ "") {address : Address}
    {node : JoinNode} (there : tree.at? address = some node)
    : dotted (tree.trail address) = "" ↔ address = [] := by
  cases address with
  | nil => simp [JoinNode.trail, dotted]
  | cons index rest =>
      obtain ⟨child, found, _⟩ := Option.bind_eq_some_iff.mp there
      obtain ⟨reached, standing, slot, follows, _, _, corresponds⟩ := mirrors.nodes [] tree rfl
      obtain rfl := Option.some.inj follows
      obtain ⟨link, _, linked, _⟩ := corresponds.joined index child found
      obtain ⟨member, name⟩ := Schema.findRelation?_named linked
      have filled : child.fieldName ≠ "" := name ▸ named link member
      have trail_eq : tree.trail (index :: rest) = child.fieldName :: child.trail rest := by
        rw [JoinNode.trail, found]
      rw [trail_eq, dotted]
      cases child.trail rest <;> simp [filled]

/-- A built tree mirrors its join tree. There is a map from the addresses of the one onto those of
the other, one to one and parents to parents, and each node is mapped to a relation that has its
spec, the fields, the table and the primary key of the schema that its field names lead to, and
their dotted path. Each child has its slot among the children of the relation, in the list of its
link's kind, and goes by the names that the link gives it. The root goes by the name of its table.
-/
theorem build_mirrors_join_tree {catalog : Catalog size} (named : catalog.Named)
    (root : Fin size) (tree : JoinNode) (relation : Relation)
    (success : (Relation.build catalog root tree).outcome = .ok relation)
    : ∃ (schema : Schema size) (image : Address → Address),
        (catalog root).resolve catalog = .ok schema
        ∧ Mirrors catalog schema [] tree relation image
        ∧ relation.use.aliasName = relation.use.table
        ∧ ∀ address standing,
            (tree.at? address).isSome
            → relation.at? (image address) = some standing
            → (standing.use.path = "" ↔ address = []) := by
  obtain ⟨schema, table, resolves, tableName, stands⟩ := Relation.stands_of_build success
  have ends : Place.EndsTrail (⟨schema, table, "", table⟩ : Place size) [] :=
    ⟨rfl, fun _ => rfl, named.resolved resolves⟩
  obtain ⟨image, mirrors⟩ := stands.mirrors named ends tableName
  refine ⟨schema, image, resolves, mirrors, ?_, ?_⟩
  · rw [stands.use]
    rfl
  · intro address standing valid there
    obtain ⟨node, inTree⟩ := Option.isSome_iff_exists.mp valid
    obtain ⟨reached, other, slot, _, same, _, corresponds⟩ := mirrors.nodes address node inTree
    obtain rfl := Option.some.inj (there.symm.trans same)
    rw [corresponds.path, List.nil_append]
    exact mirrors.path_eq_empty_iff (named.resolved resolves) inTree

/-- Songs and the users they belong to. -/
def songsAndUsers : Catalog 2
  | 0 => {
      name := "Song"
      tableName := some "song"
      primaryKey := some "id"
      relations := [.one "user" "user_id" 1, .one "singer" "singer_id" 1]
    }
  | 1 => {
      name := "User"
      tableName := some "user"
      primaryKey := some "id"
      relations := [.many "songs" "user_id" 0]
    }

/-- The user of a song is asked for twice, the second time with all songs, and the singer before
both.
-/
def usersOfSongs : JoinNode :=
  ⟨"", {}, true,
    [⟨"singer", {}, true, []⟩, ⟨"user", {}, true, []⟩,
      ⟨"user", {}, true, [⟨"songs", { orderBy := some "title" }, true, []⟩]⟩]⟩

/-- All five nodes have their relations, and the songs below the last one are sorted. -/
theorem build_mirrors_join_tree_of_songs
    : ∃ (relation : Relation) (schema : Schema 2) (image : Address → Address)
        (songs : Relation),
        (Relation.build songsAndUsers 0 usersOfSongs).outcome = .ok relation
        ∧ Mirrors songsAndUsers schema [] usersOfSongs relation image
        ∧ relation.at? (image [2, 0]) = some songs
        ∧ songs.use.path = "user.songs"
        ∧ songs.use.spec.orderBy = some "title" := by
  have named : songsAndUsers.Named := by
    unfold Catalog.Named
    decide
  have built : ∃ relation, (Relation.build songsAndUsers 0 usersOfSongs).outcome = .ok relation :=
    ⟨_, rfl⟩
  obtain ⟨relation, success⟩ := built
  obtain ⟨schema, image, _, mirrors, _⟩ := build_mirrors_join_tree named 0 _ relation success
  obtain ⟨_, songs, _, _, there, _, corresponds⟩ := mirrors.nodes [2, 0] _ rfl
  exact ⟨relation, schema, image, songs, success, mirrors, there, corresponds.path,
    congrArg JoinSpec.orderBy corresponds.spec⟩

end NestedSelect
