import Mathlib.Data.List.TakeWhile
import NestedSelect.Proofs.Relation.BuiltTree
/-!
The checks of a build and the trace that it leaves. Building checks the field name of each node, its
schema and its key, and reports a relation once all three have passed. At the first check that fails
it stops, with what has been reported up to there.
-/

namespace NestedSelect

variable {size : Nat} {α β : Type}

-----------------------------------------------------------------------------------------
-- Checks
-----------------------------------------------------------------------------------------

/-- A check that building makes, with what is wrong where it fails. -/
inductive Check where
  /-- A field name is that of a relation. -/
  | lookup (failure : Option QueryError)
  /-- A schema can be resolved and is a table. -/
  | resolution (failure : Option QueryError)
  /-- A relation has the key that it is joined by. No other check of the relation follows. -/
  | key (relation : ResolvedRelation) (failure : Option QueryError)

namespace Check

def failure? : Check → Option QueryError
  | .lookup failure => failure
  | .resolution failure => failure
  | .key _ failure => failure

def passes (check : Check) : Bool := check.failure?.isNone

/-- The relation that has passed the last of its checks. -/
def resolved? : Check → Option ResolvedRelation
  | .key relation none => some relation
  | _ => none

end Check

/-- What is wrong with an outcome. -/
def failureOf : Except QueryError α → Option QueryError
  | .ok _ => none
  | .error error => some error

/-- What is wrong with a field name at a place. -/
def Place.lookupFailure? (place : Place size) (fieldName : String) : Option QueryError :=
  match place.schema.findRelation? fieldName with
  | some _ => none
  | none =>
    if place.schema.hasScalar fieldName then
      some (.notARelation (place.childPath fieldName) fieldName place.schema.name)
    else some (.unknownJoinField (place.childPath fieldName) fieldName place.schema.name)

/-- The checks of a schema as a table, and behind them those of what it is needed for. -/
def Catalog.tableChecks (catalog : Catalog size) (index : Fin size)
    (behind : Schema size → String → List Check)
    : List Check :=
  match catalog.resolveTable index with
  | .error error => [.resolution (some error)]
  | .ok (schema, table) => .resolution none :: behind schema table

/-- The place of a child that is joined through a link. -/
def Place.child (place : Place size) (fieldName : String) (link : RelationLink size)
    (schema : Schema size) (table : String)
    : Place size where
  schema := schema
  table := table
  path := place.childPath fieldName
  aliasName := place.aliasName ++ "." ++ link.jsonKey

/-- The check of the key of a child, and behind it those of what is below the child. -/
def Place.keyChecks (place child : Place size) (kind : RelationKind) (below : List Check)
    : List Check :=
  let relation : ResolvedRelation := ⟨child.path, child.aliasName, kind⟩
  match place.referencedKey child.path child kind with
  | .error error => [.key relation (some error)]
  | .ok _ => .key relation none :: below

namespace JoinNode

mutual

/-- The checks below a node at its place. All field names of its children are looked up first. Then
come the children in the order in which their relations are declared: the schema of a child, its
key, and all that is below it.
-/
def checks (catalog : Catalog size) (place : Place size) : JoinNode → List Check
  | ⟨_, _, _, children⟩ =>
    (children.map fun child => .lookup (place.lookupFailure? child.fieldName))
      ++ (List.range place.schema.relations.length).flatMap fun position =>
          checksAt catalog place position children

/-- The checks of the children whose relation is declared at a position. -/
def checksAt (catalog : Catalog size) (place : Place size) (position : Nat)
    : List JoinNode → List Check
  | [] => []
  | node :: rest =>
    (match place.schema.findRelation? node.fieldName with
      | none => []
      | some link =>
        if place.schema.relationPosition node.fieldName = position then
          catalog.tableChecks link.target fun schema table =>
            let child := place.child node.fieldName link schema table
            place.keyChecks child link.kind (node.checks catalog child)
        else [])
      ++ checksAt catalog place position rest

end

end JoinNode

/-- The checks of a join tree over the table of a root schema. -/
def Catalog.joinChecks (catalog : Catalog size) (root : Fin size) (tree : JoinNode) : List Check :=
  catalog.tableChecks root fun schema table => tree.checks catalog ⟨schema, table, "", table⟩

-----------------------------------------------------------------------------------------
-- Computations that follow their checks
-----------------------------------------------------------------------------------------

/-- A traced computation makes some checks in a row up to the first one that fails. It has reported
the relations that have passed all of theirs before.
-/
structure Traced.Follows (traced : Traced α) (checks : List Check) : Prop where
  events : traced.events = (checks.takeWhile (·.passes)).filterMap (·.resolved?)
  outcome : Reports traced.outcome (checks.filterMap (·.failure?))

namespace Traced

theorem id_map (traced : Traced α) : id <$> traced = traced := by
  obtain ⟨events, outcome⟩ := traced
  cases outcome with
  | error error => rfl
  | ok value => exact congrArg (Traced.mk · _) (List.append_nil events)

theorem bind_assoc {γ : Type} (traced : Traced α) (next : α → Traced β) (further : β → Traced γ)
    : traced >>= next >>= further = traced >>= fun value => next value >>= further := by
  obtain ⟨events, outcome⟩ := traced
  cases outcome with
  | error error => rfl
  | ok value =>
      change andThen (andThen _ _) _ = andThen _ fun value => andThen _ _
      simp only [andThen]
      cases (next value).outcome <;> simp

instance : LawfulMonad Traced := .mk' _ id_map (fun _ _ => rfl) bind_assoc

/-- The events of a computation go on behind a success. -/
theorem events_bind {traced : Traced α} {value : α} (success : traced.outcome = .ok value)
    (next : α → Traced β)
    : (traced >>= next).events = traced.events ++ (next value).events := by
  change (traced.andThen next).events = _
  rw [andThen, success]

namespace Follows

variable {traced : Traced α} {checks later : List Check}

theorem all_pass (follows : traced.Follows checks) {value : α}
    (success : traced.outcome = .ok value)
    : ∀ check ∈ checks, check.passes = true := by
  have none : checks.filterMap (·.failure?) = [] :=
    follows.outcome.exists_ok_iff.mp ⟨value, success⟩
  intro check member
  rw [Check.passes, List.filterMap_eq_nil_iff.mp none check member]
  rfl

theorem exists_fails (follows : traced.Follows checks) {error : QueryError}
    (failure : traced.outcome = .error error)
    : ∃ check ∈ checks, ¬ check.passes = true := by
  have first : error ∈ checks.filterMap (·.failure?) :=
    List.mem_of_head? ((follows.outcome.eq_error_iff error).mp failure)
  obtain ⟨check, member, failed⟩ := List.mem_filterMap.mp first
  exact ⟨check, member, by simp [Check.passes, failed]⟩

/-- A failure is that of the first check that does not pass, and only what has passed all of its
checks before is reported.
-/
theorem stops (follows : traced.Follows checks) {error : QueryError}
    (failure : traced.outcome = .error error)
    : ∃ passed failing behind,
        checks = passed ++ failing :: behind
        ∧ (∀ check ∈ passed, check.failure? = none)
        ∧ failing.failure? = some error
        ∧ traced.events = passed.filterMap (·.resolved?) := by
  have first : checks.findSome? (·.failure?) = some error := by
    rw [← List.head?_filterMap]
    exact (follows.outcome.eq_error_iff error).mp failure
  obtain ⟨passed, failing, behind, rfl, fails, before⟩ := List.findSome?_eq_some_iff.mp first
  refine ⟨passed, failing, behind, rfl, before, fails, ?_⟩
  have all : ∀ check ∈ passed, check.passes = true := by
    intro check member
    rw [Check.passes, before check member]
    rfl
  have stop : failing.passes ≠ true := by simp [Check.passes, fails]
  rw [follows.events, List.takeWhile_append_of_pos all, List.takeWhile_cons_of_neg stop,
    List.append_nil]

theorem pure (value : α) : (Pure.pure value : Traced α).Follows [] := ⟨rfl, rfl⟩

/-- The checks of a later computation are only made where all those before them have passed. -/
theorem bind {next : α → Traced β} (first : traced.Follows checks)
    (second : ∀ value, traced.outcome = .ok value → (next value).Follows later)
    : (traced >>= next).Follows (checks ++ later) where
  events := by
    cases outcome : traced.outcome with
    | ok value =>
        have passed := first.all_pass outcome
        have whole : checks.takeWhile (·.passes) = checks := List.takeWhile_eq_self_iff.mpr passed
        rw [events_bind outcome, first.events, (second value outcome).events, whole,
          List.takeWhile_append_of_pos passed, List.filterMap_append]
    | error error =>
        obtain ⟨check, member, fails⟩ := first.exists_fails outcome
        have stops : ¬ (checks.takeWhile (·.passes)).length = checks.length := by
          intro same
          have whole := (List.takeWhile_prefix Check.passes).eq_of_length same
          exact fails (List.takeWhile_eq_self_iff.mp whole check member)
        change (traced.andThen next).events = _
        rw [andThen, outcome, List.takeWhile_append, if_neg stops]
        exact first.events
  outcome := by
    rw [outcome_bind, List.filterMap_append]
    exact first.outcome.bind fun value success => (second value success).outcome

theorem bind_pure (first : traced.Follows checks) (result : α → β)
    : (traced >>= fun value => Pure.pure (result value)).Follows checks := by
  have follows := first.bind fun value _ => Follows.pure (result value)
  rwa [List.append_nil] at follows

/-- Computations in a row make their checks one after another. -/
theorem mapM {compute : α → Traced β} {checks : α → List Check} {items : List α}
    (each : ∀ item ∈ items, (compute item).Follows (checks item))
    : (items.mapM compute).Follows (items.flatMap checks) := by
  induction items with
  | nil => exact .pure []
  | cons item rest ih =>
      have later := ih fun other member => each other (List.mem_cons_of_mem _ member)
      rw [List.mapM_cons, List.flatMap_cons]
      exact (each item (by simp)).bind fun value _ => later.bind_pure _

end Follows

end Traced

-----------------------------------------------------------------------------------------
-- Builds follow their checks
-----------------------------------------------------------------------------------------

/-- A schema is checked as a table before anything is done with it. -/
theorem Catalog.resolveTable_follows (catalog : Catalog size) (index : Fin size)
    {next : Schema size × String → Traced α} {behind : Schema size → String → List Check}
    (each
      : ∀ schema table,
          catalog.resolveTable index = .ok (schema, table)
          → (next (schema, table)).Follows (behind schema table))
    : (Traced.of (catalog.resolveTable index) >>= next).Follows
        (catalog.tableChecks index behind) := by
  unfold tableChecks
  cases resolved : catalog.resolveTable index with
  | error error => exact ⟨rfl, rfl⟩
  | ok found =>
      have first : (Traced.of (Except.ok found : Except QueryError _)).Follows [.resolution none] :=
        ⟨rfl, rfl⟩
      refine first.bind fun value success => ?_
      obtain rfl := Except.ok.inj success
      exact each found.1 found.2 resolved

namespace Place

variable {catalog : Catalog size} {place : Place size}

theorem failureOf_find (catalog : Catalog size) (place : Place size) (node : JoinNode)
    : failureOf (place.find (node.branch catalog)) = place.lookupFailure? node.fieldName := by
  rw [find_eq, lookupFailure?]
  cases place.schema.findRelation? node.fieldName with
  | some link => rfl
  | none => cases place.schema.hasScalar node.fieldName <;> rfl

/-- The lookups of all children come first, and nothing is reported by them. -/
theorem lookups_follow (nodes : List JoinNode)
    : (Traced.of ((JoinNode.branches catalog nodes).mapM place.find)).Follows
        (nodes.map fun node => .lookup (place.lookupFailure? node.fieldName)) where
  events := by
    have silent
        : ∀ check ∈ nodes.map fun node => Check.lookup (place.lookupFailure? node.fieldName),
            check.resolved? = none := by
      intro check member
      obtain ⟨node, -, rfl⟩ := List.mem_map.mp member
      rfl
    refine (List.filterMap_eq_nil_iff.mpr fun check member => ?_).symm
    exact silent check ((List.takeWhile_prefix _).subset member)
  outcome := by
    have failures
        : (nodes.map fun node => Check.lookup (place.lookupFailure? node.fieldName)).filterMap
              (·.failure?)
            = nodes.flatMap fun node => (place.lookupFailure? node.fieldName).toList := by
      rw [List.filterMap_map]
      exact List.filterMap_eq_flatMap_toList _ nodes
    rw [failures, JoinNode.branches_eq_map]
    change Reports (List.mapM place.find (nodes.map _)) _
    rw [List.mapM_map]
    refine Reports.mapM fun node _ => ?_
    rw [← failureOf_find catalog, Function.comp_apply]
    cases place.find (node.branch catalog) <;> rfl

/-- The key of a child is checked and the child reported before anything below it. -/
theorem referencedKey_follows {child : Place size} {kind : RelationKind} {below : List Check}
    {next : String → Traced α}
    (each : ∀ key, (next key).Follows below)
    : (Traced.of (place.referencedKey child.path child kind) >>= fun key =>
          Traced.resolved ⟨child.path, child.aliasName, kind⟩ >>= fun _ => next key).Follows
        (place.keyChecks child kind below) := by
  unfold keyChecks
  cases place.referencedKey child.path child kind with
  | error error => exact ⟨rfl, rfl⟩
  | ok key =>
      let relation : ResolvedRelation := ⟨child.path, child.aliasName, kind⟩
      have reported : (Traced.resolved relation).Follows [.key relation none] := ⟨rfl, rfl⟩
      exact reported.bind fun _ _ => each key

/-- What is violated at the positions of the children is checked child by child in order. -/
theorem checksAt_eq (nodes : List JoinNode)
    : ((List.range place.schema.relations.length).flatMap fun position =>
          JoinNode.checksAt catalog place position nodes)
        = (place.ordered nodes).flatMap fun child =>
            catalog.tableChecks child.2.target fun schema table =>
              let below := place.child child.1.fieldName child.2 schema table
              place.keyChecks below child.2.kind (child.1.checks catalog below) := by
  rw [ordered, List.flatMap_assoc]
  congr 1
  funext position
  induction nodes with
  | nil => rfl
  | cons node rest ih =>
      rw [JoinNode.checksAt, ih, Schema.linked_cons]
      cases found : place.schema.findRelation? node.fieldName with
      | none => rfl
      | some link =>
          by_cases here : place.schema.relationPosition node.fieldName = position
          · simp [here]
          · simp [here]

/-- The relation at a place follows the checks of its node if those below it do. -/
theorem relation_follows {spec : JoinSpec} {nodes : List JoinNode}
    (below
      : ∀ node ∈ nodes, ∀ child,
          (node.relate catalog child).Follows (node.checks catalog child))
    : (place.relation catalog spec (JoinNode.branches catalog nodes)).Follows
        ((nodes.map fun node => .lookup (place.lookupFailure? node.fieldName))
          ++ (List.range place.schema.relations.length).flatMap fun position =>
              JoinNode.checksAt catalog place position nodes) := by
  refine (lookups_follow nodes).bind fun found success => ?_
  rw [found_eq catalog place nodes success, inDeclarationOrder_eq, List.mapM_map, checksAt_eq]
  refine (Traced.Follows.mapM fun child member => ?_).bind_pure _
  have inside := (Schema.mem_linked ((place.ordered_perm nodes).mem_iff.mp member)).1
  refine catalog.resolveTable_follows child.2.target fun schema table _ => ?_
  exact referencedKey_follows fun key => (below child.1 inside _).bind_pure _

end Place

namespace JoinNode

mutual

/-- What is made for a node follows the checks below it, by induction over the join tree. -/
theorem relate_follows (catalog : Catalog size) (node : JoinNode) (place : Place size)
    : (node.relate catalog place).Follows (node.checks catalog place) := by
  match node with
  | ⟨_, _, _, nodes⟩ =>
      rw [relate, checks]
      exact Place.relation_follows (allRelate_follow catalog nodes)

theorem allRelate_follow (catalog : Catalog size) (nodes : List JoinNode)
    : ∀ node ∈ nodes, ∀ place : Place size,
        (node.relate catalog place).Follows (node.checks catalog place) := by
  match nodes with
  | [] => exact fun node member => by simp at member
  | first :: rest =>
      intro node member place
      rcases List.mem_cons.mp member with same | behind
      · exact same ▸ relate_follows catalog first place
      · exact allRelate_follow catalog rest node behind place

end

end JoinNode

/-- A build makes the checks of its join tree up to the first one that fails. -/
theorem Relation.build_follows (catalog : Catalog size) (root : Fin size) (tree : JoinNode)
    : (Relation.build catalog root tree).Follows (catalog.joinChecks root tree) :=
  catalog.resolveTable_follows root fun schema table _ =>
    tree.relate_follows catalog ⟨schema, table, "", table⟩

end NestedSelect
