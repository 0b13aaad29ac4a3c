import Mathlib.Data.List.Perm.Basic
import NestedSelect.Proofs.Relation.FirstViolation
/-!
What a successful build makes. A relation stands for a node of a join tree if the children of both
match one by one, each through the link that its field name finds. Every relation that is built
stands for its node, and all else about built trees follows from that.
-/

namespace NestedSelect

variable {size : Nat}

-----------------------------------------------------------------------------------------
-- Relations that stand for nodes
-----------------------------------------------------------------------------------------

/-- The use of a table at a place. -/
def Place.use (place : Place size) (spec : JoinSpec) : TableUse where
  path := place.path
  aliasName := place.aliasName
  table := place.table
  primaryKey := place.schema.primaryKey
  spec := spec
  fields := place.schema.fields

/-- A child of a node with the link that it is joined through, the place that it takes, and what is
joined there.
-/
structure PlacedChild (size : Nat) where
  node : JoinNode
  link : RelationLink size
  place : Place size
  joined : Joined Relation

/-- The child is joined to its parent through the first relation of its name, at the place that the
target of that relation has there.
-/
structure PlacedChild.Fits (catalog : Catalog size) (parent : Place size)
    (child : PlacedChild size) : Prop where
  found : parent.schema.findRelation? child.node.fieldName = some child.link
  resolves : (catalog child.link.target).resolve catalog = .ok child.place.schema
  table : child.place.schema.tableName = some child.place.table
  path : child.place.path = parent.childPath child.node.fieldName
  aliasName : child.place.aliasName = parent.aliasName ++ "." ++ child.link.jsonKey
  jsonKey : child.joined.keys.jsonKey = child.link.jsonKey
  foreignKey : child.joined.keys.foreignKey = child.link.foreignKey
  referencedKey
    : parent.schema.referenced child.place.schema child.link.kind
        = some child.joined.keys.referencedKey

/-- What is joined through the links of one kind. -/
def joinedOfKind (kind : RelationKind) (children : List (PlacedChild size))
    : List (Joined Relation) :=
  (children.filter (·.link.kind = kind)).map (·.joined)

/-- The relation stands for the node at the place. The children of the node are listed once in the
order of the tree, and once in the order in which their relations are declared.
-/
inductive Stands (catalog : Catalog size) : Place size → JoinNode → Relation → Prop
  | intro {place : Place size} {node : JoinNode} (children declared : List (PlacedChild size))
    (all : children.map (·.node) = node.children)
    (same : declared.Perm children)
    (inOrder
      : declared.Pairwise fun first second =>
          place.schema.relationPosition first.node.fieldName
            ≤ place.schema.relationPosition second.node.fieldName)
    (fits : ∀ child ∈ children, child.Fits catalog place)
    (below : ∀ child ∈ children, Stands catalog child.place child.node child.joined.relation)
    : Stands catalog place node
        ⟨place.use node.spec, joinedOfKind .one declared, joinedOfKind .many declared⟩

/-- A relation that stands at a place is a use of the table there. -/
theorem Stands.use {catalog : Catalog size} {place : Place size} {node : JoinNode}
    {relation : Relation} (stands : Stands catalog place node relation)
    : relation.use = place.use node.spec := by
  cases stands
  rfl

-----------------------------------------------------------------------------------------
-- Declaration order
-----------------------------------------------------------------------------------------

/-- Going through a list position by position rearranges it, if all its members have positions
below the bound. By induction over the bound.
-/
theorem flatMap_range_filter_perm {α : Type} (position : α → Nat) (bound : Nat) (items : List α)
    : ((List.range bound).flatMap fun here => items.filter (position · = here)).Perm
        (items.filter (position · < bound)) := by
  induction bound with
  | zero => simp
  | succ bound ih =>
      have split := List.filter_append_perm (fun item => decide (position item < bound))
        (items.filter (position · < bound + 1))
      rw [List.filter_filter, List.filter_filter] at split
      rw [List.range_succ, List.flatMap_append, List.flatMap_singleton]
      refine (ih.append_right _).trans (.trans (.of_eq ?_) split)
      congr 1 <;> refine List.filter_congr fun item _ => ?_
      · simp only [← Bool.decide_and, decide_eq_decide]
        omega
      · simp only [← decide_not, ← Bool.decide_and, decide_eq_decide]
        omega

namespace Place

variable (place : Place size)

/-- The children in declaration order are the children that are found. -/
theorem ordered_perm (nodes : List JoinNode)
    : (place.ordered nodes).Perm (place.schema.linked nodes) := by
  have inside
      : ∀ child ∈ place.schema.linked nodes,
          place.schema.relationPosition child.1.fieldName < place.schema.relations.length := by
    intro child member
    exact Schema.relationPosition_lt (Schema.mem_linked member).2
  have rearranged := flatMap_range_filter_perm
    (fun child : JoinNode × RelationLink size => place.schema.relationPosition child.1.fieldName)
    place.schema.relations.length (place.schema.linked nodes)
  rwa [List.filter_eq_self.mpr fun child member => decide_eq_true (inside child member)]
    at rearranged

/-- The positions of the children in declaration order do not descend. -/
theorem ordered_pairwise (nodes : List JoinNode)
    : (place.ordered nodes).Pairwise fun first second =>
        place.schema.relationPosition first.1.fieldName
          ≤ place.schema.relationPosition second.1.fieldName := by
  have at_position (child : JoinNode × RelationLink size) (position : Nat)
      (member : child ∈ (place.schema.linked nodes).filter fun child =>
        place.schema.relationPosition child.1.fieldName = position)
      : place.schema.relationPosition child.1.fieldName = position :=
    of_decide_eq_true (List.mem_filter.mp member).2
  refine List.pairwise_flatMap.mpr ⟨fun position _ => ?_, ?_⟩
  · refine List.pairwise_of_forall_mem_list fun first firstMember second secondMember => ?_
    exact Nat.le_of_eq
      ((at_position first _ firstMember).trans (at_position second _ secondMember).symm)
  · refine List.pairwise_lt_range.imp fun before first firstMember second secondMember => ?_
    rw [at_position first _ firstMember, at_position second _ secondMember]
    exact Nat.le_of_lt before

-----------------------------------------------------------------------------------------
-- Steps of a build
-----------------------------------------------------------------------------------------

end Place

variable {catalog : Catalog size}

/-- What is resolved as a table is a resolved schema with a table name. -/
theorem Catalog.resolveTable_eq_ok {index : Fin size} {schema : Schema size} {table : String}
    (success : catalog.resolveTable index = .ok (schema, table))
    : (catalog index).resolve catalog = .ok schema ∧ schema.tableName = some table := by
  rw [resolveTable, bind_eq_ok_iff] at success
  obtain ⟨resolved, resolves, named⟩ := success
  cases found : resolved.tableName with
  | none =>
      rw [found] at named
      contradiction
  | some name =>
      rw [found] at named
      cases named
      exact ⟨resolves, found⟩

namespace Place

variable {place : Place size}

/-- The key that a child is joined by is the one that its foreign key references. -/
theorem referencedKey_eq_ok {path : String} {child : Place size} {kind : RelationKind}
    {key : String} (success : place.referencedKey path child kind = .ok key)
    : place.schema.referenced child.schema kind = some key := by
  cases kind with
  | one =>
      rw [referencedKey] at success
      cases found : child.schema.primaryKey with
      | none =>
          rw [found] at success
          contradiction
      | some name =>
          rw [found] at success
          cases success
          exact found
  | many =>
      rw [referencedKey] at success
      cases found : place.schema.primaryKey with
      | none =>
          rw [found] at success
          contradiction
      | some name =>
          rw [found] at success
          cases success
          exact found

/-- The child has been placed for a node and the link that the node names, and its relation has been
made at that place.
-/
structure MakesChild (catalog : Catalog size) (place : Place size)
    (named : JoinNode × RelationLink size) (child : PlacedChild size) : Prop where
  node : child.node = named.1
  link : child.link = named.2
  fits : child.Fits catalog place
  made : (child.node.relate catalog child.place).outcome = .ok child.joined.relation

/-- Joining a child that is found places it, and makes its relation there. -/
theorem joinBranch_eq_ok {node : JoinNode} {link : RelationLink size}
    (found : place.schema.findRelation? node.fieldName = some link)
    {join : RelationKind × Joined Relation}
    (success
      : (place.joinBranch catalog (place.foundBranch catalog (node, link))).outcome = .ok join)
    : ∃ child,
        place.MakesChild catalog (node, link) child ∧ join = (child.link.kind, child.joined) := by
  simp only [joinBranch, Traced.outcome_bind, bind_eq_ok_iff] at success
  obtain ⟨⟨schema, table⟩, target, key, references, _, _, relation, made, done⟩ := success
  obtain rfl := Except.ok.inj done
  obtain ⟨resolves, named⟩ := Catalog.resolveTable_eq_ok target
  let child : Place size :=
    ⟨schema, table, place.childPath node.fieldName, place.aliasName ++ "." ++ link.jsonKey⟩
  refine ⟨⟨node, link, child, ⟨⟨link.jsonKey, link.foreignKey, key⟩, relation⟩⟩, ?_, rfl⟩
  exact ⟨rfl, rfl, ⟨found, resolves, named, rfl, rfl, rfl, rfl, referencedKey_eq_ok references⟩,
    made⟩

/-- Joining several children that are found places and makes them one by one. -/
theorem joinBranches_eq_ok {children : List (JoinNode × RelationLink size)}
    {joins : List (RelationKind × Joined Relation)}
    (named
      : ∀ child ∈ children, place.schema.findRelation? child.1.fieldName = some child.2)
    (made
      : List.Forall₂
          (fun child join =>
            (place.joinBranch catalog (place.foundBranch catalog child)).outcome = .ok join)
          children joins)
    : ∃ placed,
        List.Forall₂ (place.MakesChild catalog) children placed
        ∧ joins = placed.map fun child => (child.link.kind, child.joined) := by
  induction made with
  | nil => exact ⟨[], .nil, rfl⟩
  | @cons child join rest others head _ ih =>
      obtain ⟨first, makes, rfl⟩ := joinBranch_eq_ok (named child (by simp)) head
      obtain ⟨placed, later, rfl⟩ := ih fun other member =>
        named other (List.mem_cons_of_mem _ member)
      exact ⟨first :: placed, .cons makes later, rfl⟩

/-- Children that are made are made for the nodes that name them. -/
theorem MakesChild.map_node {named : List (JoinNode × RelationLink size)}
    {children : List (PlacedChild size)}
    (makes : List.Forall₂ (place.MakesChild catalog) named children)
    : children.map (·.node) = named.map (·.1) := by
  induction makes with
  | nil => rfl
  | cons head _ ih => rw [List.map_cons, List.map_cons, head.node, ih]

/-- Children that are made in declaration order have positions that do not descend. -/
theorem MakesChild.inOrder {nodes : List JoinNode} {declared : List (PlacedChild size)}
    (makes : List.Forall₂ (place.MakesChild catalog) (place.ordered nodes) declared)
    : declared.Pairwise fun first second =>
        place.schema.relationPosition first.node.fieldName
          ≤ place.schema.relationPosition second.node.fieldName := by
  have ordered := place.ordered_pairwise nodes
  rw [← List.pairwise_map (f := Prod.fst)
      (R := fun first second : JoinNode =>
        place.schema.relationPosition first.fieldName
          ≤ place.schema.relationPosition second.fieldName),
    ← map_node makes, List.pairwise_map] at ordered
  exact ordered

/-- All children are looked up exactly if each names a relation of the parent. -/
theorem lookups_eq_ok_iff (nodes : List JoinNode) (found : List (FoundBranch size))
    : (JoinNode.branches catalog nodes).mapM place.find = .ok found
      ↔ (∀ node ∈ nodes, ∃ link, place.schema.findRelation? node.fieldName = some link)
        ∧ found = (place.schema.linked nodes).map (place.foundBranch catalog) := by
  constructor
  · intro success
    refine ⟨fun node member => ?_, found_eq catalog place nodes success⟩
    rw [JoinNode.branches_eq_map, mapM_eq_ok_iff, List.forall₂_map_left_iff] at success
    obtain ⟨_, _, one⟩ := partner_of_mem_left success member
    obtain ⟨link, named, _⟩ := (find_eq_ok_iff catalog place node _).mp one
    exact ⟨link, named⟩
  · rintro ⟨all, rfl⟩
    rw [JoinNode.branches_eq_map, mapM_eq_ok_iff, List.forall₂_map_left_iff]
    induction nodes with
    | nil => exact .nil
    | cons node rest ih =>
        obtain ⟨⟨link, named⟩, later⟩ := List.forall_mem_cons.mp all
        rw [Schema.linked_cons, named]
        exact .cons ((find_eq_ok_iff catalog place node _).mpr ⟨link, named, rfl⟩) (ih later)

/-- The relation at a place is made of its children in declaration order, if there is a relation for
each of them.
-/
theorem relation_eq_ok_iff (spec : JoinSpec) (nodes : List JoinNode) (relation : Relation)
    : (place.relation catalog spec (JoinNode.branches catalog nodes)).outcome = .ok relation
      ↔ (∀ node ∈ nodes, ∃ link, place.schema.findRelation? node.fieldName = some link)
        ∧ ∃ joins,
          List.Forall₂
              (fun child join =>
                (place.joinBranch catalog (place.foundBranch catalog child)).outcome = .ok join)
              (place.ordered nodes) joins
          ∧ relation = ⟨place.use spec, ofKind .one joins, ofKind .many joins⟩ := by
  simp only [Place.relation, Traced.outcome_bind, Traced.outcome_mapM, bind_eq_ok_iff]
  constructor
  · rintro ⟨found, lookups, joins, made, done⟩
    obtain ⟨all, rfl⟩ := (lookups_eq_ok_iff nodes found).mp lookups
    rw [inDeclarationOrder_eq, List.mapM_map, mapM_eq_ok_iff] at made
    exact ⟨all, joins, made, (Except.ok.inj done).symm⟩
  · rintro ⟨all, joins, made, rfl⟩
    refine ⟨_, (lookups_eq_ok_iff nodes _).mpr ⟨all, rfl⟩, joins, ?_, rfl⟩
    rw [inDeclarationOrder_eq, List.mapM_map, mapM_eq_ok_iff]
    exact made

/-- Where there is a relation for each child, no child is left out. -/
theorem map_linked {nodes : List JoinNode}
    (all : ∀ node ∈ nodes, ∃ link, place.schema.findRelation? node.fieldName = some link)
    : (place.schema.linked nodes).map (·.1) = nodes := by
  induction nodes with
  | nil => rfl
  | cons node rest ih =>
      obtain ⟨⟨link, named⟩, later⟩ := List.forall_mem_cons.mp all
      rw [Schema.linked_cons, named, List.map_cons, ih later]

/-- A relation that is made at a place has all children of its node, each placed and made. -/
theorem relation_eq_ok {spec : JoinSpec} {nodes : List JoinNode} {relation : Relation}
    (success
      : (place.relation catalog spec (JoinNode.branches catalog nodes)).outcome = .ok relation)
    : ∃ declared : List (PlacedChild size),
        (place.schema.linked nodes).map (·.1) = nodes
        ∧ List.Forall₂ (place.MakesChild catalog) (place.ordered nodes) declared
        ∧ relation
          = ⟨place.use spec, joinedOfKind .one declared, joinedOfKind .many declared⟩ := by
  obtain ⟨all, joins, made, rfl⟩ := (relation_eq_ok_iff spec nodes relation).mp success
  have named
      : ∀ child ∈ place.ordered nodes,
          place.schema.findRelation? child.1.fieldName = some child.2 := by
    intro child member
    exact (Schema.mem_linked ((place.ordered_perm nodes).mem_iff.mp member)).2
  obtain ⟨declared, makes, rfl⟩ := joinBranches_eq_ok named made
  refine ⟨declared, map_linked all, makes, ?_⟩
  have split (kind : RelationKind)
      : ofKind kind (declared.map fun child => (child.link.kind, child.joined))
        = joinedOfKind kind declared := by
    simp [ofKind, joinedOfKind, List.filter_map, Function.comp_def]
  rw [split, split]

end Place

-----------------------------------------------------------------------------------------
-- Built trees stand for their nodes
-----------------------------------------------------------------------------------------

namespace JoinNode

/-- Whatever is made for the node stands for it, wherever it is placed. -/
def MakesStanding (catalog : Catalog size) (node : JoinNode) : Prop :=
  ∀ (place : Place size) (relation : Relation),
    (node.relate catalog place).outcome = .ok relation → Stands catalog place node relation

mutual

/-- A relation that is made for a node stands for it, by induction over the join tree. -/
theorem makesStanding (catalog : Catalog size) (node : JoinNode)
    : node.MakesStanding catalog := by
  match node with
  | ⟨fieldName, spec, explicit, nodes⟩ =>
      intro place relation success
      rw [relate] at success
      obtain ⟨declared, all, makes, rfl⟩ := Place.relation_eq_ok success
      -- The same children in the order of the tree.
      obtain ⟨children, inTree, same⟩ :=
        List.perm_comp_forall₂ (place.ordered_perm nodes).symm makes
      have fromTree : children.map (·.node) = nodes :=
        (Place.MakesChild.map_node inTree).trans all
      have inOrder := Place.MakesChild.inOrder makes
      refine .intro children declared fromTree same.symm inOrder ?_ ?_
      · intro child member
        obtain ⟨_, _, made⟩ := partner_of_mem_right inTree member
        exact made.fits
      · intro child member
        obtain ⟨_, _, made⟩ := partner_of_mem_right inTree member
        have inside : child.node ∈ nodes := fromTree ▸ List.mem_map_of_mem member
        exact allMakeStanding catalog nodes child.node inside _ _ made.made

theorem allMakeStanding (catalog : Catalog size) (nodes : List JoinNode)
    : ∀ node ∈ nodes, node.MakesStanding catalog := by
  match nodes with
  | [] => exact fun node member => by simp at member
  | first :: rest =>
      intro node member
      rcases List.mem_cons.mp member with same | behind
      · exact same ▸ makesStanding catalog first
      · exact allMakeStanding catalog rest node behind

end

end JoinNode

/-- A tree that is built stands for the join tree at the table of the root. -/
theorem Relation.stands_of_build {root : Fin size} {tree : JoinNode} {relation : Relation}
    (success : (Relation.build catalog root tree).outcome = .ok relation)
    : ∃ schema table,
        (catalog root).resolve catalog = .ok schema
        ∧ schema.tableName = some table
        ∧ Stands catalog ⟨schema, table, "", table⟩ tree relation := by
  simp only [build, Traced.outcome_bind, bind_eq_ok_iff] at success
  obtain ⟨⟨schema, table⟩, target, made⟩ := success
  obtain ⟨resolves, named⟩ := Catalog.resolveTable_eq_ok target
  exact ⟨schema, table, resolves, named, tree.makesStanding catalog _ _ made⟩

end NestedSelect
