import Mathlib.Data.List.Nodup
import NestedSelect.Proofs.Schema.TargetResolution
/-!
Resolved schemas as flattened ones. What a schema is resolved to is told in two ways: from what the
targets of its embedding links are resolved to, and from all routes along such links, each of which
contributes the members of the schema at its end. Nothing is left to embed then.
-/

namespace NestedSelect

variable {size : Nat}

-----------------------------------------------------------------------------------------
-- Routes
-----------------------------------------------------------------------------------------

/-- Embedding links that are followed one after another, each by its position among those of its
schema. Two links to one target are different ways to go.
-/
abbrev Route := List Nat

/-- The schema at the end of a route that starts at a schema. -/
def Schema.along? (catalog : Catalog size) : Schema size → Route → Option (Schema size)
  | schema, [] => some schema
  | schema, position :: rest =>
    schema.embedTargets[position]?.bind fun target => (catalog target).along? catalog rest

/-- The schema at the end of a route that starts with a choice among some targets. -/
def Catalog.amongTargets? (catalog : Catalog size) (targets : List (Fin size))
    : Route → Option (Schema size)
  | [] => none
  | position :: rest => targets[position]?.bind fun target => (catalog target).along? catalog rest

/-- A list of all routes along which something is found, each of them once, and what is found. -/
structure Enumerates {α : Type} (find : Route → Option α) (routes : List Route) (ends : List α)
    : Prop where
  distinct : routes.Nodup
  complete : ∀ route, route ∈ routes ↔ (find route).isSome
  found : routes.filterMap find = ends

/-- The same route where one more target stands in front of the others. -/
def Route.behindFirst : Route → Route
  | [] => []
  | position :: rest => (position + 1) :: rest

theorem Route.behindFirst_injective : Function.Injective Route.behindFirst := by
  intro first second same
  cases first <;> cases second <;> simp_all [behindFirst]

namespace Enumerates

variable {catalog : Catalog size}

theorem noTargets : Enumerates (catalog.amongTargets? []) [] [] where
  distinct := List.nodup_nil
  complete := by
    intro route
    cases route <;> simp [Catalog.amongTargets?]
  found := rfl

/-- The routes through one more target come before those through the others. -/
theorem cons {target : Fin size} {targets : List (Fin size)} {routes others : List Route}
    {ends otherEnds : List (Schema size)}
    (first : Enumerates ((catalog target).along? catalog) routes ends)
    (behind : Enumerates (catalog.amongTargets? targets) others otherEnds)
    : Enumerates (catalog.amongTargets? (target :: targets))
        (routes.map (0 :: ·) ++ others.map Route.behindFirst) (ends ++ otherEnds) := by
  have same (route : Route)
      : catalog.amongTargets? (target :: targets) route.behindFirst
          = catalog.amongTargets? targets route := by
    cases route <;> rfl
  refine ⟨?distinct, ?complete, ?found⟩
  case distinct =>
    refine List.nodup_append.mpr ⟨List.Nodup.map List.cons_injective first.distinct,
      List.Nodup.map Route.behindFirst_injective behind.distinct, ?_⟩
    rintro _ inFirst _ inOthers rfl
    obtain ⟨rest, -, rfl⟩ := List.mem_map.mp inFirst
    obtain ⟨other, -, never⟩ := List.mem_map.mp inOthers
    cases other <;> cases never
  case complete =>
    intro route
    rw [List.mem_append, List.mem_map, List.mem_map]
    constructor
    · rintro (⟨rest, member, rfl⟩ | ⟨other, member, rfl⟩)
      · exact (first.complete rest).mp member
      · rw [same]
        exact (behind.complete other).mp member
    · intro found
      rcases route with _ | ⟨_ | position, rest⟩
      · cases found
      · exact .inl ⟨rest, (first.complete rest).mpr found, rfl⟩
      · exact .inr ⟨position :: rest, (behind.complete (position :: rest)).mpr found, rfl⟩
  case found =>
    rw [List.filterMap_append, List.filterMap_map, List.filterMap_map, ← first.found,
      ← behind.found]
    exact congrArg _ (List.filterMap_congr fun route _ => same route)

/-- Behind all other routes comes the one that leads nowhere. -/
theorem start {schema : Schema size} {routes : List Route} {ends : List (Schema size)}
    (behind : Enumerates (catalog.amongTargets? schema.embedTargets) routes ends)
    : Enumerates (schema.along? catalog) (routes ++ [[]]) (ends ++ [schema]) := by
  have away {route : Route} (member : route ∈ routes)
      : catalog.amongTargets? schema.embedTargets route = schema.along? catalog route := by
    cases route with
    | nil => cases (behind.complete []).mp member
    | cons position rest => rfl
  refine ⟨?distinct, ?complete, ?found⟩
  case distinct =>
    refine List.nodup_append.mpr ⟨behind.distinct, List.nodup_singleton _, ?_⟩
    rintro route member _ last rfl
    obtain rfl := List.mem_singleton.mp last
    cases (behind.complete []).mp member
  case complete =>
    intro route
    cases route with
    | nil => simp [Schema.along?]
    | cons position rest =>
        rw [List.mem_append, List.mem_singleton, or_iff_left (List.cons_ne_nil _ _)]
        exact behind.complete (position :: rest)
  case found =>
    rw [List.filterMap_append, ← behind.found]
    exact congrArg (· ++ [schema]) (List.filterMap_congr fun route member => (away member).symm)

end Enumerates

-----------------------------------------------------------------------------------------
-- Contributions
-----------------------------------------------------------------------------------------

/-- The relations of a schema that can be joined. -/
def Schema.ownRelations (schema : Schema size) : List (RelationLink size) :=
  schema.relations.filter (!·.embed)

/-- Every route contributes the members of the schema at its end, in the order of the routes. -/
structure Schema.Gathers (catalog : Catalog size) (schema flat : Schema size)
    (routes : List Route) (ends : List (Schema size))
    : Prop where
  enumerates : Enumerates (schema.along? catalog) routes ends
  fields : flat.fields = ends.flatMap (·.fields)
  relations : flat.relations = ends.flatMap (·.ownRelations)

/-- A schema gathers what its targets gather, and then its own members. -/
theorem Schema.exists_gathers_withEmbedded {catalog : Catalog size} {schema : Schema size}
    {embedded : List (Schema size)}
    (each
      : List.Forall₂
          (fun target part => ∃ routes ends, (catalog target).Gathers catalog part routes ends)
          schema.embedTargets embedded)
    : ∃ routes ends, schema.Gathers catalog (schema.withEmbedded embedded) routes ends := by
  have together {targets : List (Fin size)} {parts : List (Schema size)}
      (inStep
        : List.Forall₂
            (fun target part => ∃ routes ends, (catalog target).Gathers catalog part routes ends)
            targets parts)
      : ∃ routes ends,
          Enumerates (catalog.amongTargets? targets) routes ends
            ∧ parts.flatMap (·.fields) = ends.flatMap (·.fields)
            ∧ parts.flatMap (·.relations) = ends.flatMap (·.ownRelations) := by
    induction inStep with
    | nil => exact ⟨[], [], .noTargets, rfl, rfl⟩
    | cons first _ ih =>
        obtain ⟨routes, ends, gathers⟩ := first
        obtain ⟨others, otherEnds, behind, fields, relations⟩ := ih
        refine ⟨_, _, gathers.enumerates.cons behind, ?_, ?_⟩
        · rw [List.flatMap_cons, List.flatMap_append, gathers.fields, fields]
        · rw [List.flatMap_cons, List.flatMap_append, gathers.relations, relations]
  obtain ⟨routes, ends, behind, fields, relations⟩ := together each
  refine ⟨_, _, behind.start, ?_, ?_⟩
  · rw [List.flatMap_append, ← fields, List.flatMap_singleton]
    rfl
  · rw [List.flatMap_append, ← relations, List.flatMap_singleton]
    rfl

/-- What is embedded gathers the members along its routes. By induction over the schemas that are
resolved on the way.
-/
theorem Catalog.exists_gathers_of_resolveUnder {catalog : Catalog size} (stack : List String)
    (index : Fin size)
    : ∀ resolved,
        catalog.resolveUnder stack index = .ok resolved
        → ∃ routes ends, (catalog index).Gathers catalog resolved routes ends := by
  induction stack, index using Catalog.resolveUnder.induct catalog with
  | case1 stack index cycle =>
      intro resolved success
      exact absurd cycle ((catalog.resolveUnder_eq_ok_iff _ _ _).mp success).1
  | case2 stack index fresh ih =>
      intro resolved success
      obtain ⟨-, embedded, inStep, rfl⟩ := (catalog.resolveUnder_eq_ok_iff _ _ _).mp success
      exact Schema.exists_gathers_withEmbedded (inStep.imp fun target part => ih target part)

/-- Only relations that can be joined are gathered. -/
theorem Schema.Gathers.unembedded {catalog : Catalog size} {schema flat : Schema size}
    {routes : List Route} {ends : List (Schema size)}
    (gathers : schema.Gathers catalog flat routes ends) {link : RelationLink size}
    (member : link ∈ flat.relations)
    : link.embed = false := by
  rw [gathers.relations] at member
  obtain ⟨source, -, own⟩ := List.mem_flatMap.mp member
  simpa using (List.mem_filter.mp own).2

-----------------------------------------------------------------------------------------
-- Flattened schemas
-----------------------------------------------------------------------------------------

/-- A schema is flattened into another one: the targets of its embedding links are resolved, and
their members come before its own in the order of the links. Its table name and its primary key,
each for itself, are its own if it has one, and those of the first target that has one otherwise.
-/
structure Schema.Flattens (catalog : Catalog size) (schema flat : Schema size)
    (parts : List (Schema size))
    : Prop where
  targets
    : List.Forall₂ (fun link part => (catalog link.target).resolve catalog = .ok part)
        (schema.relations.filter (·.embed)) parts
  name : flat.name = schema.name
  fields : flat.fields = parts.flatMap (·.fields) ++ schema.fields
  relations : flat.relations = parts.flatMap (·.relations) ++ schema.ownRelations
  unembedded : ∀ link ∈ flat.relations, link.embed = false
  tableName : flat.tableName = schema.tableName.or (parts.findSome? (·.tableName))
  primaryKey : flat.primaryKey = schema.primaryKey.or (parts.findSome? (·.primaryKey))

/-- A schema without embedding links is resolved to itself. -/
theorem Schema.resolve_of_unembedded {catalog : Catalog size} {schema : Schema size}
    (unembedded : ∀ link ∈ schema.relations, link.embed = false)
    : schema.resolve catalog = .ok schema := by
  have noTargets : schema.embedTargets = [] := by
    unfold embedTargets
    rw [List.map_eq_nil_iff, List.filter_eq_nil_iff]
    intro link member
    simp [unembedded link member]
  have kept : schema.relations.filter (!·.embed) = schema.relations :=
    List.filter_eq_self.mpr fun link member => by simp [unembedded link member]
  refine (schema.resolve_eq_ok_iff catalog schema).mpr ⟨[], noTargets ▸ .nil, ?_⟩
  obtain ⟨name, tableName, primaryKey, fields, relations⟩ := schema
  simp only [withEmbedded] at kept ⊢
  rw [kept]
  cases tableName <;> cases primaryKey <;> rfl

/-- What a schema is resolved to is the schema flattened, and gathers its fields and relations along
all routes from it, each of which contributes once. Resolving it again changes nothing.
-/
theorem resolve_flattens {catalog : Catalog size} {schema resolved : Schema size}
    (success : schema.resolve catalog = .ok resolved)
    : (∃ parts, schema.Flattens catalog resolved parts)
      ∧ (∃ routes ends, schema.Gathers catalog resolved routes ends)
      ∧ resolved.resolve catalog = .ok resolved := by
  obtain ⟨parts, inStep, made⟩ := (schema.resolve_eq_ok_iff catalog resolved).mp success
  have gathered : ∃ routes ends, schema.Gathers catalog resolved routes ends := by
    rw [made]
    exact Schema.exists_gathers_withEmbedded
      (inStep.imp fun target part => catalog.exists_gathers_of_resolveUnder _ _ part)
  obtain ⟨routes, ends, gathers⟩ := gathered
  have targets
      : List.Forall₂ (fun link part => (catalog link.target).resolve catalog = .ok part)
          (schema.relations.filter (·.embed)) parts := by
    refine (List.forall₂_map_left_iff.mp inStep).imp fun link part resolves => ?_
    rw [Catalog.resolve_eq_resolveUnder]
    exact Catalog.resolveUnder_of_subset resolves (List.nil_subset _)
  refine ⟨⟨parts, ?_⟩, ⟨routes, ends, gathers⟩,
    Schema.resolve_of_unembedded fun link => gathers.unembedded⟩
  subst made
  refine ⟨targets, rfl, rfl, rfl, fun link => gathers.unembedded, ?_, ?_⟩
  · simp only [Schema.withEmbedded, List.findSome?_cons]
    cases schema.tableName <;> rfl
  · simp only [Schema.withEmbedded, List.findSome?_cons]
    cases schema.primaryKey <;> rfl

/-- A table that embeds two fragments, both of which embed a third one. -/
def sharedFragment : Catalog 4 := fun index =>
  match index with
  | 0 => {
      name := "Song"
      fields := [⟨"title", "title"⟩]
      relations := [.embedded "origin" 1, .one "album" "album_id" 0, .embedded "change" 2]
    }
  | 1 => {
      name := "Origin"
      tableName := some "song"
      relations := [.embedded "stamp" 3]
    }
  | 2 => {
      name := "Change"
      primaryKey := some "id"
      fields := [⟨"reason", "reason"⟩]
      relations := [.embedded "stamp" 3]
    }
  | 3 => {
      name := "Stamp"
      fields := [⟨"at", "at"⟩]
    }

/-- The shared fragment contributes twice, and the table name and the primary key come from
different fragments.
-/
theorem resolve_flattens_of_shared_fragment
    : ∃ resolved,
        (sharedFragment 0).resolve sharedFragment = .ok resolved
        ∧ resolved.fields.map (·.column) = ["at", "at", "reason", "title"]
        ∧ resolved.tableName = some "song"
        ∧ resolved.primaryKey = some "id"
        ∧ (∃ parts, (sharedFragment 0).Flattens sharedFragment resolved parts)
        ∧ (∃ routes ends, (sharedFragment 0).Gathers sharedFragment resolved routes ends)
        ∧ resolved.resolve sharedFragment = .ok resolved := by
  let stamp := (sharedFragment 3).withEmbedded []
  have resolvesStamp {stack : List String} (fresh : "Stamp" ∉ stack)
      : sharedFragment.resolveUnder stack 3 = .ok stamp :=
    (Catalog.resolveUnder_eq_ok_iff _ _ _ _).mpr ⟨fresh, [], .nil, rfl⟩
  have resolvesFragment (index : Fin 4) (fresh : (sharedFragment index).name ∉ ["Song"])
      (links : (sharedFragment index).embedTargets = [3])
      (other : "Stamp" ∉ [(sharedFragment index).name, "Song"])
      : sharedFragment.resolveUnder ["Song"] index
          = .ok ((sharedFragment index).withEmbedded [stamp]) :=
    (Catalog.resolveUnder_eq_ok_iff _ _ _ _).mpr
      ⟨fresh, [stamp], links ▸ .cons (resolvesStamp other) .nil, rfl⟩
  have origin := resolvesFragment 1 (by decide) rfl (by decide)
  have change := resolvesFragment 2 (by decide) rfl (by decide)
  have success := (Schema.resolve_eq_ok_iff sharedFragment (sharedFragment 0) _).mpr
    ⟨_, .cons origin (.cons change .nil), rfl⟩
  exact ⟨_, success, rfl, rfl, rfl, resolve_flattens success⟩

end NestedSelect
