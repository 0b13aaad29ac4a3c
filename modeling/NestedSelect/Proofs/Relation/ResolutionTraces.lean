import NestedSelect.Proofs.Join.ListedPaths
import NestedSelect.Proofs.Relation.ResolutionChecks
import NestedSelect.Proofs.Relation.TreeCorrespondence
/-!
The trace of a successful build. Every relation below the root is reported once, behind its parent
and in front of all that is below it. Siblings are reported in the order of their declaration, and
not in that of the relation tree, which tells the kinds apart.
-/

namespace NestedSelect

variable {size : Nat} {catalog : Catalog size} {place : Place size} {node : JoinNode}
  {relation : Relation} {trace : List ResolvedRelation}

-----------------------------------------------------------------------------------------
-- Resolutions of a relation tree
-----------------------------------------------------------------------------------------

namespace Relation

mutual

/-- The resolutions of all relations below the root. -/
def resolutions : Relation → List ResolvedRelation
  | ⟨_, one, many⟩ => resolutionsOfKind .one one ++ resolutionsOfKind .many many

/-- The resolutions of children of one kind and of all relations below them. -/
def resolutionsOfKind (kind : RelationKind) : List (Joined Relation) → List ResolvedRelation
  | [] => []
  | ⟨_, relation⟩ :: rest =>
    ⟨relation.use.path, relation.use.aliasName, kind⟩ :: relation.resolutions
      ++ resolutionsOfKind kind rest

end

/-- The children of one kind are resolved one after another, each in front of what is below it. -/
theorem resolutionsOfKind_eq (kind : RelationKind) (joins : List (Joined Relation))
    : resolutionsOfKind kind joins
        = joins.flatMap fun joined =>
            ⟨joined.relation.use.path, joined.relation.use.aliasName, kind⟩
              :: joined.relation.resolutions := by
  induction joins with
  | nil => rfl
  | cons joined rest ih => rw [resolutionsOfKind, ih, List.flatMap_cons]

/-- The resolutions are those of the children and of what is below them. -/
theorem resolutions_eq (relation : Relation)
    : relation.resolutions
        = relation.children.flatMap fun child =>
            ⟨child.2.relation.use.path, child.2.relation.use.aliasName, child.1⟩
              :: child.2.relation.resolutions := by
  obtain ⟨use, one, many⟩ := relation
  rw [resolutions, resolutionsOfKind_eq, resolutionsOfKind_eq, children, List.flatMap_append,
    List.flatMap_map, List.flatMap_map]

end Relation

-----------------------------------------------------------------------------------------
-- Traces that account for a tree
-----------------------------------------------------------------------------------------

/-- What is reported of a child. -/
def PlacedChild.resolved (child : PlacedChild size) : ResolvedRelation :=
  ⟨child.place.path, child.place.aliasName, child.link.kind⟩

/-- A trace accounts for what is built for a node at its place. It has the children of the node in
the order in which their relations are declared, each as the report of the child and behind that the
trace of what is built for it.
-/
inductive Accounts (catalog : Catalog size)
    : Place size → JoinNode → Relation → List ResolvedRelation → Prop
  | intro {place : Place size} {node : JoinNode} (declared : List (PlacedChild size))
    (traces : PlacedChild size → List ResolvedRelation)
    (nodes : (declared.map (·.node)).Perm node.children)
    (inOrder
      : declared.Pairwise fun first second =>
          place.schema.relationPosition first.node.fieldName
            ≤ place.schema.relationPosition second.node.fieldName)
    (fits : ∀ child ∈ declared, child.Fits catalog place)
    (below
      : ∀ child ∈ declared,
          Accounts catalog child.place child.node child.joined.relation (traces child))
    : Accounts catalog place node
        ⟨place.use node.spec, joinedOfKind .one declared, joinedOfKind .many declared⟩
        (declared.flatMap fun child => child.resolved :: traces child)

namespace Accounts

theorem use (accounts : Accounts catalog place node relation trace)
    : relation.use = place.use node.spec := by
  cases accounts
  rfl

/-- A trace has each relation below the root once, as often as the tree does. By induction over what
it accounts for: only the order of the children differs.
-/
theorem perm_resolutions (accounts : Accounts catalog place node relation trace)
    : trace.Perm relation.resolutions := by
  induction accounts with
  | @intro place node declared traces nodes inOrder fits below ih =>
      rw [Relation.resolutions_eq, children_eq_arrangedByKind, List.flatMap_map]
      refine .trans ?_ ((arrangedByKind_perm declared).symm.flatMap_right _)
      refine List.Perm.flatMap_left _ fun child member => ?_
      rw [(below child member).use]
      exact (ih child member).cons _

/-- A trace has one report for each path below the root of the join tree. By induction over what it
accounts for.
-/
theorem length_eq (accounts : Accounts catalog place node relation trace)
    : trace.length = node.paths.length := by
  induction accounts with
  | @intro place node declared traces nodes inOrder fits below ih =>
      obtain ⟨fieldName, spec, explicit, children⟩ := node
      have blocks : (declared.flatMap (·.node.block)).Perm (children.flatMap JoinNode.block) := by
        rw [← List.flatMap_map]
        exact nodes.flatMap_right _
      rw [JoinNode.paths, JoinNode.pathsOfAll_eq_flatMap, ← blocks.length_eq, List.length_flatMap,
        List.length_flatMap]
      congr 1
      refine List.map_congr_left fun child member => ?_
      rw [JoinNode.block, List.length_cons, List.length_cons, List.length_map, ih child member]

end Accounts

-----------------------------------------------------------------------------------------
-- Traces of builds
-----------------------------------------------------------------------------------------

namespace Traced

variable {α β : Type}

/-- What comes behind an outcome that is no failure leaves the whole trace. -/
theorem events_of_ok {outcome : Except QueryError α} {value : α} (success : outcome = .ok value)
    (next : α → Traced β)
    : (Traced.of outcome >>= next).events = (next value).events := by
  have succeeds : (Traced.of outcome).outcome = .ok value := success
  rw [events_bind succeeds]
  rfl

/-- The trace of successful computations in a row is that of all of them. -/
theorem events_mapM {compute : α → Traced β} {items : List α} {values : List β}
    (success : (items.mapM compute).outcome = .ok values)
    : (items.mapM compute).events = items.flatMap fun item => (compute item).events := by
  induction items generalizing values with
  | nil => rfl
  | cons item rest ih =>
      rw [List.mapM_cons] at success ⊢
      simp only [outcome_bind, bind_eq_ok_iff] at success
      obtain ⟨value, first, others, later, -⟩ := success
      rw [events_bind first, events_bind later, List.flatMap_cons, ih later]
      exact congrArg _ (List.append_nil _)

end Traced

/-- A resolved schema with a table name is resolved as a table. -/
theorem Catalog.resolveTable_of_named {index : Fin size} {schema : Schema size} {table : String}
    (resolves : (catalog index).resolve catalog = .ok schema)
    (named : schema.tableName = some table)
    : catalog.resolveTable index = .ok (schema, table) := by
  rw [resolveTable, bind_eq_ok_iff]
  exact ⟨schema, resolves, by rw [named]; rfl⟩

/-- The place of a child is decided by its link and by the schema there. -/
theorem PlacedChild.Fits.place_eq {child : PlacedChild size} (fits : child.Fits catalog place)
    : place.child child.node.fieldName child.link child.place.schema child.place.table
        = child.place := by
  rw [Place.child, ← fits.path, ← fits.aliasName]

namespace Place

/-- A child is joined by the key that its foreign key references. -/
theorem referencedKey_of_referenced (path : String) {child : Place size} {kind : RelationKind}
    {key : String} (references : place.schema.referenced child.schema kind = some key)
    : place.referencedKey path child kind = .ok key := by
  cases kind with
  | one =>
      have found : child.schema.primaryKey = some key := references
      rw [referencedKey, found]
  | many =>
      have found : place.schema.primaryKey = some key := references
      rw [referencedKey, found]

/-- A child that is made is reported in front of all that is made below it. -/
theorem MakesChild.events {named : JoinNode × RelationLink size} {child : PlacedChild size}
    (makes : place.MakesChild catalog named child)
    : (place.joinBranch catalog (place.foundBranch catalog named)).events
        = child.resolved :: (child.node.relate catalog child.place).events := by
  obtain ⟨node, link, fits, made⟩ := makes
  obtain rfl : named = (child.node, child.link) := Prod.ext node.symm link.symm
  have target := Catalog.resolveTable_of_named fits.resolves fits.table
  have key := referencedKey_of_referenced child.place.path fits.referencedKey
  let finish (referencedKey : String) (relation : Relation)
      : Traced (RelationKind × Joined Relation) :=
    pure (child.link.kind, ⟨⟨child.link.jsonKey, child.link.foreignKey, referencedKey⟩, relation⟩)
  let join (place' : Place size) : Traced (RelationKind × Joined Relation) := do
    let referencedKey ← Traced.of (place.referencedKey place'.path place' child.link.kind)
    Traced.resolved ⟨place'.path, place'.aliasName, child.link.kind⟩
    let relation ← child.node.relate catalog place'
    finish referencedKey relation
  calc
    (place.joinBranch catalog (place.foundBranch catalog (child.node, child.link))).events
      = (join (place.child child.node.fieldName child.link child.place.schema
          child.place.table)).events := Traced.events_of_ok target _
    _ = (join child.place).events := by rw [fits.place_eq]
    _ = (Traced.resolved child.resolved >>= fun _ =>
          child.node.relate catalog child.place >>= finish _).events :=
        Traced.events_of_ok key _
    _ = child.resolved :: ((child.node.relate catalog child.place).events ++ []) := by
        have reported : (Traced.resolved child.resolved).outcome = .ok () := rfl
        rw [Traced.events_bind reported, Traced.events_bind made]
        rfl
    _ = _ := by rw [List.append_nil]

theorem MakesChild.allEvents {named : List (JoinNode × RelationLink size)}
    {children : List (PlacedChild size)}
    (makes : List.Forall₂ (place.MakesChild catalog) named children)
    : (named.flatMap fun child =>
          (place.joinBranch catalog (place.foundBranch catalog child)).events)
        = children.flatMap fun child =>
            child.resolved :: (child.node.relate catalog child.place).events := by
  induction makes with
  | nil => rfl
  | cons head _ ih => rw [List.flatMap_cons, List.flatMap_cons, head.events, ih]

/-- The trace of what is made at a place has all children of the node in the order in which their
relations are declared.
-/
theorem relation_events {spec : JoinSpec} {nodes : List JoinNode} {relation : Relation}
    {declared : List (PlacedChild size)}
    (success
      : (place.relation catalog spec (JoinNode.branches catalog nodes)).outcome = .ok relation)
    (makes : List.Forall₂ (place.MakesChild catalog) (place.ordered nodes) declared)
    : (place.relation catalog spec (JoinNode.branches catalog nodes)).events
        = declared.flatMap fun child =>
            child.resolved :: (child.node.relate catalog child.place).events := by
  simp only [Place.relation, Traced.outcome_bind, bind_eq_ok_iff] at success
  obtain ⟨found, lookups, joins, made, -⟩ := success
  have lookups : (JoinNode.branches catalog nodes).mapM place.find = .ok found := lookups
  rw [Place.relation, Traced.events_of_ok lookups, Traced.events_bind made,
    Traced.events_mapM made, found_eq catalog place nodes lookups, inDeclarationOrder_eq,
    List.flatMap_map, MakesChild.allEvents makes]
  exact List.append_nil _

end Place

namespace JoinNode

/-- The trace of whatever is made for the node accounts for it, wherever it is placed. -/
def TracesAll (catalog : Catalog size) (node : JoinNode) : Prop :=
  ∀ (place : Place size) (relation : Relation),
    (node.relate catalog place).outcome = .ok relation
    → Accounts catalog place node relation (node.relate catalog place).events

mutual

/-- Making a relation leaves a trace that accounts for it, by induction over the join tree. -/
theorem tracesAll (catalog : Catalog size) (node : JoinNode) : node.TracesAll catalog := by
  match node with
  | ⟨fieldName, spec, explicit, nodes⟩ =>
      intro place relation success
      rw [relate] at success ⊢
      obtain ⟨declared, all, makes, rfl⟩ := Place.relation_eq_ok success
      rw [Place.relation_events success makes]
      have same : (declared.map (·.node)).Perm nodes := by
        rw [Place.MakesChild.map_node makes]
        exact ((place.ordered_perm nodes).map _).trans (.of_eq all)
      refine .intro declared _ same (Place.MakesChild.inOrder makes) ?_ ?_
      · intro child member
        obtain ⟨_, _, made⟩ := partner_of_mem_right makes member
        exact made.fits
      · intro child member
        obtain ⟨_, _, made⟩ := partner_of_mem_right makes member
        have inside : child.node ∈ nodes := same.mem_iff.mp (List.mem_map_of_mem member)
        exact allTrace catalog nodes child.node inside _ _ made.made

theorem allTrace (catalog : Catalog size) (nodes : List JoinNode)
    : ∀ node ∈ nodes, node.TracesAll catalog := by
  match nodes with
  | [] => exact fun node member => by simp at member
  | first :: rest =>
      intro node member
      rcases List.mem_cons.mp member with same | behind
      · exact same ▸ tracesAll catalog first
      · exact allTrace catalog rest node behind

end

end JoinNode

/-- A tree that is built is accounted for from the table of the root on. -/
theorem Relation.accounts_of_build {root : Fin size} {tree : JoinNode} {relation : Relation}
    (success : (Relation.build catalog root tree).outcome = .ok relation)
    : ∃ schema table,
        catalog.resolveTable root = .ok (schema, table)
        ∧ Accounts catalog ⟨schema, table, "", table⟩ tree relation
            (Relation.build catalog root tree).events := by
  rw [build] at success ⊢
  simp only [Traced.outcome_bind, bind_eq_ok_iff] at success
  obtain ⟨⟨schema, table⟩, target, made⟩ := success
  have target : catalog.resolveTable root = .ok (schema, table) := target
  refine ⟨schema, table, target, ?_⟩
  rw [Traced.events_of_ok target]
  exact tree.tracesAll catalog _ _ made

end NestedSelect
