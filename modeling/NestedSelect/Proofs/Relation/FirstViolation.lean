import NestedSelect.Proofs.Relation.JoinValidity
/-!
Building a relation tree reports the first violation of the join tree, and succeeds where there is
none. Building stops at the first failure, so it never gets to see the other violations.
-/

namespace NestedSelect

variable {size : Nat}

-----------------------------------------------------------------------------------------
-- Places
-----------------------------------------------------------------------------------------

/-- The place lies at the end of a trail, and only the root has an empty path. All relations of its
schema have names.
-/
structure Place.EndsTrail (place : Place size) (trail : List String) : Prop where
  path : place.path = dotted trail
  root : place.path = "" → trail = []
  named : ∀ link ∈ place.schema.relations, link.fieldName ≠ ""

/-- All relations of all schemas have names. -/
def Catalog.Named (catalog : Catalog size) : Prop :=
  ∀ index, ∀ link ∈ (catalog index).relations, link.fieldName ≠ ""

/-- Relations have names in resolved schemas too. -/
theorem Catalog.Named.resolved {catalog : Catalog size} (named : catalog.Named)
    {index : Fin size} {resolved : Schema size}
    (success : (catalog index).resolve catalog = .ok resolved)
    : ∀ link ∈ resolved.relations, link.fieldName ≠ "" := by
  intro link member
  obtain ⟨source, declared⟩ := catalog.declares_of_resolve index success member
  exact named source link declared

namespace Place.EndsTrail

variable {place : Place size} {trail : List String}

/-- A trail goes on with the field name of a child. -/
theorem childPath (ends : place.EndsTrail trail) (fieldName : String)
    : place.childPath fieldName = dotted (trail ++ [fieldName]) := by
  unfold Place.childPath
  by_cases atRoot : place.path = ""
  · obtain rfl := ends.root atRoot
    simp [atRoot, dotted]
  · have below : trail ≠ [] := by
      rintro rfl
      exact atRoot (by simp [ends.path, dotted])
    rw [if_neg atRoot, ends.path, dotted, dotted,
      String.intercalate_append_of_ne_nil below (by simp), String.intercalate_singleton]

/-- A place below is not taken for the root, as long as relations have names. -/
theorem child (ends : place.EndsTrail trail) {child : Place size} {link : RelationLink size}
    (member : link ∈ place.schema.relations)
    (path : child.path = place.childPath link.fieldName)
    (named : ∀ link ∈ child.schema.relations, link.fieldName ≠ "")
    : child.EndsTrail (trail ++ [link.fieldName]) where
  path := by rw [path, ends.childPath]
  root := by
    intro empty
    have name := ends.named link member
    rw [path, Place.childPath] at empty
    by_cases atRoot : place.path = ""
    · rw [if_pos atRoot] at empty
      contradiction
    · rw [if_neg atRoot] at empty
      simp at empty
  named := named

end Place.EndsTrail

-----------------------------------------------------------------------------------------
-- Lookups
-----------------------------------------------------------------------------------------

/-- A target that is not a table is reported, and otherwise what comes later. -/
theorem Catalog.resolveTable_reports {α : Type} (catalog : Catalog size) (index : Fin size)
    {next : Schema size × String → Except QueryError α}
    {later : Schema size × String → List QueryError}
    (each
      : ∀ schema table,
          (catalog index).resolve catalog = .ok schema
          → Reports (next (schema, table)) (later (schema, table)))
    : Reports (catalog.resolveTable index >>= next) (catalog.tableViolations index later) := by
  unfold resolveTable tableViolations
  cases resolved : (catalog index).resolve catalog with
  | error error => rfl
  | ok schema =>
      cases named : schema.tableName with
      | none =>
          simp only [named, bind, Except.bind]
          rfl
      | some table =>
          simp only [named, bind, Except.bind]
          exact each schema table resolved

/-- The branch of a child. -/
def JoinNode.branch (catalog : Catalog size) (node : JoinNode) : Branch size :=
  ⟨node.fieldName, node.relate catalog⟩

theorem JoinNode.branches_eq_map (catalog : Catalog size) (nodes : List JoinNode)
    : branches catalog nodes = nodes.map (JoinNode.branch catalog) := by
  induction nodes with
  | nil => rfl
  | cons node rest ih => exact congrArg (node.branch catalog :: ·) ih

namespace Place

/-- A child that is found through a link of the parent's schema. -/
def foundBranch (catalog : Catalog size) (place : Place size)
    (child : JoinNode × RelationLink size)
    : FoundBranch size where
  position := place.schema.relationPosition child.1.fieldName
  link := child.2
  path := place.childPath child.1.fieldName
  branch := child.1.branch catalog

/-- Looking up a child finds the first relation of its name, if there is one. -/
theorem find_eq (catalog : Catalog size) (place : Place size) (node : JoinNode)
    : place.find (node.branch catalog)
        = match place.schema.findRelation? node.fieldName with
          | some link => .ok (place.foundBranch catalog (node, link))
          | none =>
            if place.schema.hasScalar node.fieldName then
              .error
                (.notARelation (place.childPath node.fieldName) node.fieldName
                  place.schema.name)
            else
              .error
                (.unknownJoinField (place.childPath node.fieldName) node.fieldName
                  place.schema.name) := by
  rfl

theorem find_eq_ok_iff (catalog : Catalog size) (place : Place size) (node : JoinNode)
    (found : FoundBranch size)
    : place.find (node.branch catalog) = .ok found
      ↔ ∃ link,
          place.schema.findRelation? node.fieldName = some link
          ∧ place.foundBranch catalog (node, link) = found := by
  rw [find_eq]
  cases place.schema.findRelation? node.fieldName with
  | some link => simp
  | none => by_cases scalar : place.schema.hasScalar node.fieldName = true <;> simp [scalar]

/-- Looking up a child reports that its name is no relation. -/
theorem find_reports (catalog : Catalog size) {place : Place size} {trail : List String}
    (ends : place.EndsTrail trail) (node : JoinNode)
    : Reports (place.find (node.branch catalog))
        (place.schema.lookupViolations (trail ++ [node.fieldName]) node.fieldName) := by
  simp only [find_eq, Schema.lookupViolations, ← ends.childPath, ← Schema.hasScalar_iff]
  cases place.schema.findRelation? node.fieldName with
  | some link => rfl
  | none =>
      by_cases scalar : place.schema.hasScalar node.fieldName = true <;> simp [scalar, Reports]

/-- Looking up all children reports the first field name that is no relation. -/
theorem lookups_report (catalog : Catalog size) {place : Place size} {trail : List String}
    (ends : place.EndsTrail trail) (nodes : List JoinNode)
    : Reports ((JoinNode.branches catalog nodes).mapM place.find)
        (nodes.flatMap fun node =>
          place.schema.lookupViolations (trail ++ [node.fieldName]) node.fieldName) := by
  rw [JoinNode.branches_eq_map, List.mapM_map]
  exact Reports.mapM fun node _ => find_reports catalog ends node

end Place

/-- The nodes that name a relation, each with the link that it names. -/
def Schema.linked (schema : Schema size) (nodes : List JoinNode)
    : List (JoinNode × RelationLink size) :=
  nodes.filterMap fun node => (schema.findRelation? node.fieldName).map (node, ·)

theorem Schema.linked_cons (schema : Schema size) (node : JoinNode) (rest : List JoinNode)
    : schema.linked (node :: rest)
        = match schema.findRelation? node.fieldName with
          | some link => (node, link) :: schema.linked rest
          | none => schema.linked rest := by
  rw [linked, List.filterMap_cons]
  cases schema.findRelation? node.fieldName <;> rfl

theorem Schema.mem_linked {schema : Schema size} {nodes : List JoinNode}
    {child : JoinNode × RelationLink size} (member : child ∈ schema.linked nodes)
    : child.1 ∈ nodes ∧ schema.findRelation? child.1.fieldName = some child.2 := by
  obtain ⟨node, inside, named⟩ := List.mem_filterMap.mp member
  obtain ⟨link, found, rfl⟩ := Option.map_eq_some_iff.mp named
  exact ⟨inside, found⟩

namespace Place

/-- Where no lookup fails, every child is found through its link. -/
theorem found_eq (catalog : Catalog size) (place : Place size) (nodes : List JoinNode)
    {found : List (FoundBranch size)}
    (success : (JoinNode.branches catalog nodes).mapM place.find = .ok found)
    : found = (place.schema.linked nodes).map (place.foundBranch catalog) := by
  rw [JoinNode.branches_eq_map, mapM_eq_ok_iff, List.forall₂_map_left_iff] at success
  induction success with
  | nil => rfl
  | @cons node first rest others head _ ih =>
      obtain ⟨link, named, rfl⟩ := (find_eq_ok_iff catalog place node first).mp head
      rw [ih, Schema.linked_cons, named]
      rfl

/-- The children of a place in the order in which their relations are declared. -/
def ordered (place : Place size) (nodes : List JoinNode) : List (JoinNode × RelationLink size) :=
  (List.range place.schema.relations.length).flatMap fun position =>
    (place.schema.linked nodes).filter fun child =>
      place.schema.relationPosition child.1.fieldName = position

theorem inDeclarationOrder_eq (catalog : Catalog size) (place : Place size)
    (nodes : List JoinNode)
    : place.inDeclarationOrder
          ((place.schema.linked nodes).map (place.foundBranch catalog))
        = (place.ordered nodes).map (place.foundBranch catalog) := by
  rw [inDeclarationOrder, ordered, List.map_flatMap]
  congr 1
  funext position
  rw [List.filter_map]
  rfl

end Place

-----------------------------------------------------------------------------------------
-- Joins
-----------------------------------------------------------------------------------------

/-- What is violated at and below a child that has been found. -/
def Catalog.childViolations (catalog : Catalog size) (parent : Schema size × String)
    (trail : List String) (child : JoinNode × RelationLink size)
    : List QueryError :=
  catalog.tableViolations child.2.target fun target =>
    keyViolations (trail ++ [child.1.fieldName]) parent target child.2.kind
      ++ child.1.violations catalog target (trail ++ [child.1.fieldName])

/-- Joining at a node reports what is violated below it, wherever it is placed. -/
def JoinNode.ReportsViolations (catalog : Catalog size) (node : JoinNode) : Prop :=
  ∀ (place : Place size) (trail : List String),
    place.EndsTrail trail
    → Reports (node.relate catalog place).outcome
        (node.violations catalog (place.schema, place.table) trail)

namespace Place

/-- What is violated at the positions of the children is violated by the children in order. -/
theorem violationsAt_eq (catalog : Catalog size) (place : Place size) (trail : List String)
    (nodes : List JoinNode)
    : ((List.range place.schema.relations.length).flatMap fun position =>
          JoinNode.violationsAt catalog (place.schema, place.table) trail position nodes)
        = (place.ordered nodes).flatMap
          (catalog.childViolations (place.schema, place.table) trail) := by
  rw [ordered, List.flatMap_assoc]
  congr 1
  funext position
  induction nodes with
  | nil => rfl
  | cons node rest ih =>
      rw [JoinNode.violationsAt, ih, Schema.linked_cons]
      cases found : place.schema.findRelation? node.fieldName with
      | none => rfl
      | some link =>
          by_cases here : place.schema.relationPosition node.fieldName = position
          · simp [here, Catalog.childViolations]
          · simp [here]

/-- The key that a child is joined by is reported where it is missing. -/
theorem referencedKey_reports {place : Place size} {trail : List String}
    (ends : place.EndsTrail trail) (fieldName : String) (child : Place size)
    (kind : RelationKind)
    : Reports (place.referencedKey (place.childPath fieldName) child kind)
        (keyViolations (trail ++ [fieldName]) (place.schema, place.table)
          (child.schema, child.table) kind) := by
  rw [ends.childPath]
  cases kind with
  | one =>
      simp only [referencedKey, keyViolations, Schema.referenced]
      cases child.schema.primaryKey <;> rfl
  | many =>
      simp only [referencedKey, keyViolations, Schema.referenced]
      cases place.schema.primaryKey <;> rfl

/-- Joining a child reports what is violated by its target, by its key and below it. -/
theorem joinBranch_reports {catalog : Catalog size} (named : catalog.Named)
    {place : Place size} {trail : List String} (ends : place.EndsTrail trail)
    {node : JoinNode} {link : RelationLink size}
    (found : place.schema.findRelation? node.fieldName = some link)
    (below : node.ReportsViolations catalog)
    : Reports (place.joinBranch catalog (place.foundBranch catalog (node, link))).outcome
        (catalog.childViolations (place.schema, place.table) trail (node, link)) := by
  obtain ⟨member, name⟩ := Schema.findRelation?_named found
  rw [joinBranch, Traced.outcome_bind]
  refine catalog.resolveTable_reports link.target fun schema table resolved => ?_
  simp only [Traced.outcome_bind]
  -- The alias is of no concern here, and the event on the way leaves the outcome alone.
  let child : Place size :=
    ⟨schema, table, place.childPath node.fieldName, place.aliasName ++ "." ++ link.jsonKey⟩
  have childEnds : child.EndsTrail (trail ++ [node.fieldName]) := by
    rw [← name]
    exact ends.child member (by rw [name]) (named.resolved resolved)
  have key := referencedKey_reports ends node.fieldName child link.kind
  exact key.bind fun _ _ => (below child _ childEnds).bind_ok fun relation => ⟨_, rfl⟩

/-- The relation at a place reports what is violated by the lookups of its children and then by the
children in the order of their relations.
-/
theorem relation_reports {catalog : Catalog size} (named : catalog.Named) {place : Place size}
    {trail : List String} (ends : place.EndsTrail trail) (spec : JoinSpec)
    (nodes : List JoinNode) (below : ∀ node ∈ nodes, node.ReportsViolations catalog)
    : Reports (place.relation catalog spec (JoinNode.branches catalog nodes)).outcome
        ((nodes.flatMap fun node =>
            place.schema.lookupViolations (trail ++ [node.fieldName]) node.fieldName)
          ++ (List.range place.schema.relations.length).flatMap fun position =>
              JoinNode.violationsAt catalog (place.schema, place.table) trail position nodes) := by
  simp only [relation, Traced.outcome_bind, Traced.outcome_mapM]
  refine (lookups_report catalog ends nodes).bind fun found success => ?_
  rw [found_eq catalog place nodes success, inDeclarationOrder_eq, List.mapM_map,
    violationsAt_eq]
  refine Reports.bind_ok (Reports.mapM fun child member => ?_) fun children => ⟨_, rfl⟩
  obtain ⟨position, _, inside⟩ := List.mem_flatMap.mp member
  obtain ⟨node, link⟩ := Schema.mem_linked (List.mem_of_mem_filter inside)
  exact joinBranch_reports named ends link (below _ node)

end Place

namespace JoinNode

mutual

/-- Every node reports what is violated below it, by induction over the tree. -/
theorem relate_reports {catalog : Catalog size} (named : catalog.Named) (node : JoinNode)
    : node.ReportsViolations catalog := by
  match node with
  | ⟨_, spec, _, children⟩ =>
      intro place trail ends
      rw [relate, violations]
      exact place.relation_reports named ends spec children (allRelate_report named children)

theorem allRelate_report {catalog : Catalog size} (named : catalog.Named)
    (nodes : List JoinNode)
    : ∀ node ∈ nodes, node.ReportsViolations catalog := by
  match nodes with
  | [] => exact fun node member => by simp at member
  | first :: rest =>
      intro node member
      rcases List.mem_cons.mp member with same | behind
      · exact same ▸ relate_reports named first
      · exact allRelate_report named rest node behind

end

end JoinNode

/-- Building reports the first violation of the tree, from the root on. -/
theorem Relation.build_reports {catalog : Catalog size} (named : catalog.Named)
    (root : Fin size) (tree : JoinNode)
    : Reports (Relation.build catalog root tree).outcome (catalog.joinViolations root tree) := by
  rw [build, Traced.outcome_bind]
  refine catalog.resolveTable_reports root fun schema table resolved => ?_
  refine tree.relate_reports named ⟨schema, table, "", table⟩ [] ?_
  exact ⟨rfl, fun _ => rfl, named.resolved resolved⟩

/-- Building succeeds exactly for the trees that can be joined, and fails exactly with the first
violation of the others, as long as all relations have names.
-/
theorem build_accepts_joinable {catalog : Catalog size} (named : catalog.Named)
    (root : Fin size) (tree : JoinNode)
    : ((∃ relation, (Relation.build catalog root tree).outcome = .ok relation)
          ↔ catalog.Joinable root tree)
      ∧ ∀ error,
          (Relation.build catalog root tree).outcome = .error error
          ↔ (catalog.joinViolations root tree).head? = some error := by
  have reports := Relation.build_reports named root tree
  exact ⟨reports.exists_ok_iff.trans (catalog.joinViolations_eq_nil_iff root tree),
    reports.eq_error_iff⟩

/-- Users without a primary key, with a column that is renamed in the JSON object, with songs and
with a profile that is no table.
-/
def unkeyedUsers : Catalog 3
  | 0 => {
      name := "User"
      tableName := some "user"
      fields := [⟨"display_name", "displayName"⟩]
      relations := [.many "songs" "user_id" 1, .one "profile" "profile_id" 2]
    }
  | 1 => { name := "Song", tableName := some "song", primaryKey := some "id" }
  | 2 => { name := "Profile" }

/-- The songs of users cannot be joined, and this comes first although the tree has them last: the
songs are declared in front of the profile. A name that is no relation comes before both. It is told
whether it is that of a column, be it in the table or in the JSON object.
-/
theorem build_accepts_joinable_of_users
    : (Relation.build unkeyedUsers 0
            ⟨"", {}, true, [⟨"profile", {}, true, []⟩, ⟨"songs", {}, true, []⟩]⟩).outcome
          = .error (.missingPrimaryKey "songs" "user")
      ∧ (Relation.build unkeyedUsers 0
            ⟨"", {}, true, [⟨"songs", {}, true, []⟩, ⟨"display_name", {}, true, []⟩]⟩).outcome
          = .error (.notARelation "display_name" "display_name" "User")
      ∧ (Relation.build unkeyedUsers 0
            ⟨"", {}, true, [⟨"songs", {}, true, []⟩, ⟨"displayName", {}, true, []⟩]⟩).outcome
          = .error (.notARelation "displayName" "displayName" "User")
      ∧ (Relation.build unkeyedUsers 0
            ⟨"", {}, true, [⟨"songs", {}, true, []⟩, ⟨"", {}, true, []⟩]⟩).outcome
          = .error (.unknownJoinField "" "" "User") := by
  have named : unkeyedUsers.Named := by
    unfold Catalog.Named
    decide
  exact ⟨((build_accepts_joinable named 0 _).2 _).mpr rfl,
    ((build_accepts_joinable named 0 _).2 _).mpr rfl,
    ((build_accepts_joinable named 0 _).2 _).mpr rfl,
    ((build_accepts_joinable named 0 _).2 _).mpr rfl⟩

end NestedSelect
