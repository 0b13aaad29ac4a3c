import Mathlib.Data.List.Nodup
import NestedSelect.Proofs.Join.Segments
import NestedSelect.Proofs.Relation.TreeCorrespondence
/-!
Aliases of a built tree. The alias of a node is that of the root followed by the JSON keys on the
way down, with a dot in front of each. The keys on the way to two nodes are never the same, but keys
may have dots of their own, and then aliases can be the same all the same.
-/

namespace NestedSelect

variable {size : Nat}

-----------------------------------------------------------------------------------------
-- Keys
-----------------------------------------------------------------------------------------

/-- The JSON keys on the way down to an address. -/
def Relation.keys : Relation → Address → List String
  | _, [] => []
  | relation, index :: rest =>
    match relation.children[index]? with
    | none => []
    | some child => child.2.keys.jsonKey :: child.2.relation.keys rest

/-- No two relations of a resolved schema have the same JSON key. -/
def Catalog.DistinctKeys (catalog : Catalog size) : Prop :=
  ∀ index schema,
    (catalog index).resolve catalog = .ok schema → (schema.relations.map (·.jsonKey)).Nodup

/-- The children of a relation go by its own alias and their JSON keys, which are distinct. -/
structure Relation.NamesChildren (relation : Relation) : Prop where
  aliases
    : ∀ child ∈ relation.children,
        child.2.relation.use.aliasName
          = relation.use.aliasName ++ "." ++ child.2.keys.jsonKey
  distinct : (relation.children.map (·.2.keys.jsonKey)).Nodup

/-- All relations of the tree name their children. -/
def Relation.NamesAll (relation : Relation) : Prop :=
  ∀ address standing, relation.at? address = some standing → standing.NamesChildren

-----------------------------------------------------------------------------------------
-- Naming in built trees
-----------------------------------------------------------------------------------------

/-- Nodes of different names are joined through relations with different keys. -/
theorem Schema.nodup_keys {schema : Schema size} {children : List (PlacedChild size)}
    (keys : (schema.relations.map (·.jsonKey)).Nodup)
    (siblings : (children.map (·.node.fieldName)).Nodup)
    (found
      : ∀ child ∈ children, schema.findRelation? child.node.fieldName = some child.link)
    : (children.map (·.link.jsonKey)).Nodup := by
  refine List.Nodup.map_on ?_ (siblings.of_map _)
  intro first firstMember second secondMember same
  obtain ⟨firstInside, firstName⟩ := Schema.findRelation?_named (found first firstMember)
  obtain ⟨secondInside, secondName⟩ := Schema.findRelation?_named (found second secondMember)
  have link : first.link = second.link :=
    List.inj_on_of_nodup_map keys firstInside secondInside same
  have name : first.node.fieldName = second.node.fieldName := by
    rw [← firstName, ← secondName, link]
  exact List.inj_on_of_nodup_map siblings firstMember secondMember name

/-- A relation that stands for a node without repeated siblings names all relations below it. By
induction over what stands.
-/
theorem Stands.namesAll {catalog : Catalog size} (distinct : catalog.DistinctKeys)
    {place : Place size} {node : JoinNode} {relation : Relation}
    (stands : Stands catalog place node relation)
    (siblings : node.DistinctSiblings)
    (keys : (place.schema.relations.map (·.jsonKey)).Nodup)
    : relation.NamesAll := by
  induction stands with
  | @intro place node children declared all same inOrder fits below ih =>
      intro address standing there
      have rearranged : (arrangedByKind declared).Perm children :=
        (arrangedByKind_perm declared).trans same
      cases address with
      | nil =>
          obtain rfl := Option.some.inj there
          refine ⟨?_, ?_⟩
          · intro child member
            rw [children_eq_arrangedByKind] at member
            obtain ⟨placed, inside, rfl⟩ := List.mem_map.mp member
            have member := rearranged.mem_iff.mp inside
            rw [(below placed member).use, (fits placed member).jsonKey]
            exact (fits placed member).aliasName
          · rw [children_eq_arrangedByKind, List.map_map]
            have names : (children.map (·.node.fieldName)).Nodup := by
              have := siblings [] node rfl
              rwa [← all, List.map_map] at this
            have keyed := Schema.nodup_keys keys names fun child member => (fits child member).found
            refine ((rearranged.map _).nodup_iff).mpr ?_
            refine (List.map_congr_left fun child member => ?_) ▸ keyed
            exact (fits child member).jsonKey.symm
      | cons index rest =>
          rw [Relation.at?, children_eq_arrangedByKind, List.getElem?_map] at there
          cases found : (arrangedByKind declared)[index]? with
          | none => simp [found] at there
          | some child =>
              rw [found] at there
              have member := rearranged.mem_iff.mp (List.mem_of_getElem? found)
              refine ih child member ?_ ?_ rest standing there
              · obtain ⟨position, bound, rfl⟩ := List.getElem_of_mem member
                intro address node' inside
                refine siblings (position :: address) node' ?_
                rw [JoinNode.at?, ← all, List.getElem?_map, List.getElem?_eq_getElem bound]
                exact inside
              · exact distinct _ _ (fits child member).resolves

-----------------------------------------------------------------------------------------
-- Aliases and keys
-----------------------------------------------------------------------------------------

namespace Relation.NamesAll

variable {relation : Relation}

/-- What lies below a child is named, too. -/
theorem child (names : relation.NamesAll) {index : Nat} {child : RelationKind × Joined Relation}
    (found : relation.children[index]? = some child)
    : child.2.relation.NamesAll := by
  intro address standing there
  refine names (index :: address) standing ?_
  rw [Relation.at?, found]
  exact there

/-- An alias spells out the keys on the way down, by induction over the address. -/
theorem alias_at (names : relation.NamesAll) {address : Address} {standing : Relation}
    (there : relation.at? address = some standing)
    : standing.use.aliasName.toList
        = relation.use.aliasName.toList
          ++ (relation.keys address).flatMap fun key => '.' :: key.toList := by
  induction address generalizing relation with
  | nil =>
      obtain rfl := Option.some.inj there
      simp [Relation.keys]
  | cons index rest ih =>
      obtain ⟨child, found, below⟩ := Option.bind_eq_some_iff.mp there
      have aliasName := (names [] relation rfl).aliases child (List.mem_of_getElem? found)
      rw [ih (names.child found) below, aliasName, Relation.keys, found]
      simp

/-- The keys on the way down tell any two nodes apart, by induction over the first address. -/
theorem keys_injective (names : relation.NamesAll) {first second : Address}
    (firstThere : (relation.at? first).isSome) (secondThere : (relation.at? second).isSome)
    (same : relation.keys first = relation.keys second)
    : first = second := by
  induction first generalizing relation second with
  | nil =>
      cases second with
      | nil => rfl
      | cons index rest =>
          obtain ⟨standing, there⟩ := Option.isSome_iff_exists.mp secondThere
          obtain ⟨child, found, _⟩ := Option.bind_eq_some_iff.mp there
          simp [Relation.keys, found] at same
  | cons index rest ih =>
      obtain ⟨standing, there⟩ := Option.isSome_iff_exists.mp firstThere
      obtain ⟨child, found, below⟩ := Option.bind_eq_some_iff.mp there
      cases second with
      | nil => simp [Relation.keys, found] at same
      | cons other others =>
          obtain ⟨otherStanding, otherThere⟩ := Option.isSome_iff_exists.mp secondThere
          obtain ⟨otherChild, otherFound, otherBelow⟩ := Option.bind_eq_some_iff.mp otherThere
          rw [Relation.keys, Relation.keys, found, otherFound] at same
          obtain ⟨head, tail⟩ := List.cons.inj same
          have keys
              : (relation.children.map (·.2.keys.jsonKey))[index]?
                = (relation.children.map (·.2.keys.jsonKey))[other]? := by
            rw [List.getElem?_map, List.getElem?_map, found, otherFound]
            exact congrArg some head
          have bound : index < (relation.children.map (·.2.keys.jsonKey)).length := by
            rw [List.length_map]
            exact (List.getElem?_eq_some_iff.mp found).1
          obtain rfl := (List.getElem?_inj bound (names [] relation rfl).distinct).mp keys
          obtain rfl := Option.some.inj (found.symm.trans otherFound)
          rw [ih (names.child found) (Option.isSome_iff_exists.mpr ⟨_, below⟩)
            (Option.isSome_iff_exists.mpr ⟨_, otherBelow⟩) tail]

end Relation.NamesAll

/-- Any two nodes of a built tree are told apart by the JSON keys on the way down to them, as long
as there are no repeated siblings and no two relations of a schema share a key. They have the same
alias exactly if their keys are the same when all are cut at the dots within them. So aliases are
unique where no key has a dot.
-/
theorem aliases_collide_iff (catalog : Catalog size) (distinct : catalog.DistinctKeys)
    (root : Fin size) (tree : JoinNode) (siblings : tree.DistinctSiblings) (relation : Relation)
    (success : (Relation.build catalog root tree).outcome = .ok relation)
    : ∀ first second firstRelation secondRelation,
        first ≠ second
        → relation.at? first = some firstRelation
        → relation.at? second = some secondRelation
        → relation.keys first ≠ relation.keys second
          ∧ (firstRelation.use.aliasName = secondRelation.use.aliasName
            ↔ (relation.keys first).flatMap segments = (relation.keys second).flatMap segments)
          ∧ ((∀ key ∈ relation.keys first ++ relation.keys second, '.' ∉ key.toList)
            → firstRelation.use.aliasName ≠ secondRelation.use.aliasName) := by
  obtain ⟨schema, table, resolves, _, stands⟩ := Relation.stands_of_build success
  have names := stands.namesAll distinct siblings (distinct root schema resolves)
  intro first second firstRelation secondRelation apart firstThere secondThere
  have keys : relation.keys first ≠ relation.keys second := by
    intro same
    exact apart (names.keys_injective (Option.isSome_iff_exists.mpr ⟨_, firstThere⟩)
      (Option.isSome_iff_exists.mpr ⟨_, secondThere⟩) same)
  have aliases
      : firstRelation.use.aliasName = secondRelation.use.aliasName
        ↔ (relation.keys first).flatMap segments = (relation.keys second).flatMap segments := by
    rw [← String.toList_inj, names.alias_at firstThere, names.alias_at secondThere,
      List.append_cancel_left_eq, flatMap_dot_eq_iff]
  refine ⟨keys, aliases, fun plain same => keys ?_⟩
  have pieces := aliases.mp same
  rwa [flatMap_segments_of_no_dots fun key member => plain key (List.mem_append_left _ member),
    flatMap_segments_of_no_dots fun key member => plain key (List.mem_append_right _ member)]
    at pieces

/-- Tables whose rows point to two others, one of them under a key with a dot. -/
def dottedKeys : Catalog 2 := fun index =>
  if index.val = 0 then {
      name := "Order"
      tableName := some "order"
      relations := [
        { RelationLink.one "bill" "bill_id" (Fin.last 1) with jsonKey := "address.city" },
        { RelationLink.one "ship" "ship_id" (Fin.last 1) with jsonKey := "address" }]
    }
  else {
      name := "Place"
      tableName := some "place"
      primaryKey := some "id"
      relations := [.one "city" "city_id" (Fin.last 1)]
    }

/-- The bill of an order, and the city that it is shipped to. -/
def billAndCity : JoinNode :=
  ⟨"", {}, true, [⟨"bill", {}, true, []⟩, ⟨"ship", {}, true, [⟨"city", {}, true, []⟩]⟩]⟩

/-- Both go by the same alias, although no siblings are repeated and no keys are shared. -/
theorem aliases_collide_of_dotted_keys
    : dottedKeys.DistinctKeys
      ∧ billAndCity.DistinctSiblings
      ∧ ∃ relation bill city,
          (Relation.build dottedKeys 0 billAndCity).outcome = .ok relation
          ∧ relation.at? [0] = some bill
          ∧ relation.at? [1, 0] = some city
          ∧ relation.keys [0] ≠ relation.keys [1, 0]
          ∧ bill.use.aliasName = city.use.aliasName := by
  have distinct : dottedKeys.DistinctKeys := by
    intro index schema success
    match index with
    | 0 =>
        obtain rfl := Except.ok.inj success
        decide
    | 1 =>
        obtain rfl := Except.ok.inj success
        decide
  have siblings : billAndCity.DistinctSiblings := by
    have leaf (name : String) : JoinNode.DistinctSiblings ⟨name, {}, true, []⟩ :=
      .of_children List.nodup_nil (by simp)
    refine .of_children (by decide) ?_
    intro child member
    rcases List.mem_cons.mp member with rfl | behind
    · exact leaf "bill"
    · obtain rfl := List.mem_singleton.mp behind
      exact .of_children (by decide) fun city inside =>
        List.mem_singleton.mp inside ▸ leaf "city"
  have built
      : ∃ relation,
          (Relation.build dottedKeys 0 billAndCity).outcome = .ok relation
          ∧ (relation.at? [0]).isSome
          ∧ (relation.at? [1, 0]).isSome
          ∧ (relation.keys [0]).flatMap segments = (relation.keys [1, 0]).flatMap segments :=
    ⟨_, rfl, rfl, rfl, by decide⟩
  obtain ⟨relation, success, first, second, same⟩ := built
  obtain ⟨bill, billThere⟩ := Option.isSome_iff_exists.mp first
  obtain ⟨city, cityThere⟩ := Option.isSome_iff_exists.mp second
  obtain ⟨keys, aliases, _⟩ :=
    aliases_collide_iff dottedKeys distinct 0 billAndCity siblings relation success [0] [1, 0] bill
      city (by simp) billThere cityThere
  exact ⟨distinct, siblings, relation, bill, city, success, billThere, cityThere, keys,
    aliases.mpr same⟩

end NestedSelect
