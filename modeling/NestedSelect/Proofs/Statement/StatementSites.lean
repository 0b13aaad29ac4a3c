import Mathlib.Data.List.Nodup
import NestedSelect.Proofs.Statement.StatementQuery
/-!
The sites of a relation tree. Each relation has its place in a statement: a scan of its table, the
object of its rows, and a nested select where its parent has many rows of it. A statement consists
of these, once for every relation, and no from list has two sources of one name.
-/

namespace NestedSelect

open Sql

-----------------------------------------------------------------------------------------
-- Sites
-----------------------------------------------------------------------------------------

/-- The members of the JSON object of one row. -/
def Relation.members (relation : Relation) : List Member :=
  relation.use.columns ++ objects relation.one ++ arrays relation.many

/-- A relation of a tree with how it is tied to its parent, if that has many rows of it. -/
structure Site where
  relation : Relation
  correlation : Option Correlation

namespace Site

variable (site : Site) (options : RenderOptions)

def aliasName : String :=
  site.relation.use.aliasName

def table : Source :=
  site.relation.use.tableSource site.correlation

def scan : Source :=
  site.relation.use.scanSource options site.correlation

/-- The nested select of a correlated relation. -/
def nested? : Option Source :=
  site.correlation.map fun correlation =>
    .derived (site.relation.query options (some correlation)) site.aliasName

/-- The arguments that the JSON object of the relation is built of. -/
def object : List Expression :=
  memberArguments site.relation.members

/-- The sources that a statement has for the relation. -/
def sources : List Source :=
  (site.nested? options).toList ++ [site.scan options, site.table]

end Site

namespace Relation

mutual

def sites (correlation : Option Correlation) : Relation → List Site
  | ⟨use, one, many⟩ =>
    ⟨⟨use, one, many⟩, correlation⟩ :: (sitesOfOne one ++ sitesOfMany use.aliasName many)

def sitesOfOne : List (Joined Relation) → List Site
  | [] => []
  | ⟨_, relation⟩ :: rest => relation.sites none ++ sitesOfOne rest

def sitesOfMany (parent : String) : List (Joined Relation) → List Site
  | [] => []
  | ⟨keys, relation⟩ :: rest =>
    relation.sites (some ⟨parent, keys.foreignKey, keys.referencedKey⟩) ++ sitesOfMany parent rest

end

mutual

/-- There is one site for each use. -/
theorem map_use_sites (correlation : Option Correlation) (relation : Relation)
    : (relation.sites correlation).map (·.relation.use) = relation.uses := by
  match relation with
  | ⟨use, one, many⟩ =>
      simp [sites, uses, map_use_sitesOfOne one, map_use_sitesOfMany use.aliasName many]

theorem map_use_sitesOfOne (joins : List (Joined Relation))
    : (sitesOfOne joins).map (·.relation.use) = usesOfAll joins := by
  match joins with
  | [] => rfl
  | ⟨keys, relation⟩ :: rest =>
      simp [sitesOfOne, usesOfAll, map_use_sites none relation, map_use_sitesOfOne rest]

theorem map_use_sitesOfMany (parent : String) (joins : List (Joined Relation))
    : (sitesOfMany parent joins).map (·.relation.use) = usesOfAll joins := by
  match joins with
  | [] => rfl
  | ⟨keys, relation⟩ :: rest =>
      simp [sitesOfMany, usesOfAll, map_use_sites _ relation, map_use_sitesOfMany parent rest]

end

-----------------------------------------------------------------------------------------
-- Every site has its sources and its object once
-----------------------------------------------------------------------------------------

variable (options : RenderOptions)

mutual

/-- The sources of a statement are those of its sites, in the same order. By induction over the
tree, where the nested select of a relation belongs to the statement around it.
-/
theorem sources_query (correlation : Option Correlation) (relation : Relation)
    : ((⟨relation, correlation⟩ : Site).nested? options).toList
          ++ (relation.query options correlation).sources
        = (relation.sites correlation).flatMap (Site.sources · options) := by
  match relation with
  | ⟨use, one, many⟩ =>
      have joinedOne := allSources_joinsOfOne use.aliasName one
      have joinedMany := allSources_joinsOfMany use.aliasName many
      simp [query, sites, Query.sources, Join.allSources_append, joinedOne, joinedMany,
        TableUse.scanSource, TableUse.tableSource, Source.sources, Join.allSources, Site.sources,
        Site.scan, Site.table]

theorem allSources_joinsOfOne (parent : String) (joins : List (Joined Relation))
    : Join.allSources (joinsOfOne options parent joins)
        = (sitesOfOne joins).flatMap (Site.sources · options) := by
  match joins with
  | [] => rfl
  | ⟨keys, ⟨use, one, many⟩⟩ :: rest =>
      have joinedOne := allSources_joinsOfOne use.aliasName one
      have joinedMany := allSources_joinsOfMany use.aliasName many
      have others := allSources_joinsOfOne parent rest
      simp [joinsOfOne, sitesOfOne, sites, Join.allSources, Join.allSources_append, joinedOne,
        joinedMany, others, TableUse.scanSource, TableUse.tableSource, Source.sources,
        Query.sources, Site.sources, Site.scan, Site.table, Site.nested?]

theorem allSources_joinsOfMany (parent : String) (joins : List (Joined Relation))
    : Join.allSources (joinsOfMany options parent joins)
        = (sitesOfMany parent joins).flatMap (Site.sources · options) := by
  match joins with
  | [] => rfl
  | ⟨keys, relation⟩ :: rest =>
      have nested :=
        sources_query (some ⟨parent, keys.foreignKey, keys.referencedKey⟩) relation
      have others := allSources_joinsOfMany parent rest
      rw [joinsOfMany, sitesOfMany, List.flatMap_append, ← nested, ← others]
      rfl

end

/-- The objects in the values of some members. -/
def objectsWithin (members : List Member) : List (List Expression) :=
  members.flatMap (·.2.objects)

theorem allObjects_memberArguments (members : List Member)
    : Expression.allObjects (memberArguments members) = objectsWithin members := by
  induction members with
  | nil => rfl
  | cons member rest ih =>
      have split
          : memberArguments (member :: rest)
            = [.text member.1, member.2] ++ memberArguments rest := rfl
      rw [split, Expression.allObjects_append, ih]
      simp [Expression.allObjects, Expression.objects, objectsWithin]

theorem objects_scanSource (use : TableUse) (correlation : Option Correlation)
    : (use.scanSource options correlation).objects = [] := by
  cases correlation <;> rfl

/-- An object has the objects of its one-relations inside of it, and no other ones. -/
theorem objects_object (relation : Relation)
    : relation.object.objects
        = memberArguments relation.members :: objectsWithin (objects relation.one) := by
  have columns : objectsWithin relation.use.columns = [] := by
    simp [objectsWithin, TableUse.columns, Expression.objects, List.flatMap_eq_nil_iff]
  have arrays : objectsWithin (arrays relation.many) = [] := by
    simp [objectsWithin, Relation.arrays, Expression.objects, List.flatMap_eq_nil_iff]
  have flat : objectsWithin relation.members = objectsWithin (objects relation.one) := by
    rw [members, objectsWithin, List.flatMap_append, List.flatMap_append, ← objectsWithin,
      ← objectsWithin, ← objectsWithin, columns, arrays, List.nil_append, List.append_nil]
  have object
      : relation.object = relation.use.object relation.members := by
    cases relation
    rfl
  rw [object, TableUse.object]
  cases relation.use.primaryKey <;>
    simp [Expression.objects, allObjects_memberArguments, flat]

mutual

theorem objects_query (correlation : Option Correlation) (relation : Relation)
    : (relation.query options correlation).objects.Perm
        ((relation.sites correlation).map Site.object) := by
  match relation with
  | ⟨use, one, many⟩ =>
      have joinedOne := objects_joinsOfOne use.aliasName one
      have joinedMany := objects_joinsOfMany use.aliasName many
      have own := objects_object ⟨use, one, many⟩
      have scanned := objects_scanSource options use correlation
      have keys
          : (outputs options ⟨use, one, many⟩ correlation).flatMap Output.objects
            = (object ⟨use, one, many⟩).objects := by
        cases correlation <;> simp [outputs, Output.objects, Expression.objects]
      have grouped
          : ((correlation.map fun correlation =>
                Expression.column use.aliasName correlation.foreignKey).toList).flatMap
              Expression.objects
            = [] := by
        cases correlation <;> rfl
      have all := (joinedOne.append joinedMany).cons (Site.object ⟨⟨use, one, many⟩, correlation⟩)
      simpa [query, Query.objects, keys, own, scanned, grouped, Join.allObjects_append, sites,
        Site.object] using all

theorem objects_joinsOfOne (parent : String) (joins : List (Joined Relation))
    : (objectsWithin (objects joins) ++ Join.allObjects (joinsOfOne options parent joins)).Perm
        ((sitesOfOne joins).map Site.object) := by
  match joins with
  | [] => exact .nil
  | ⟨keys, ⟨use, one, many⟩⟩ :: rest =>
      have joinedOne := objects_joinsOfOne use.aliasName one
      have joinedMany := objects_joinsOfMany use.aliasName many
      have others := objects_joinsOfOne parent rest
      have own := objects_object ⟨use, one, many⟩
      have scanned := objects_scanSource options use none
      -- The projection of the rest comes before what is joined to the first child.
      have moved :=
        (List.perm_append_comm_assoc (objectsWithin (objects rest))
          (Join.allObjects (joinsOfOne options use.aliasName one)
            ++ Join.allObjects (joinsOfMany options use.aliasName many))
          (Join.allObjects (joinsOfOne options parent rest))).append_left
            (objectsWithin (objects one))
      have below := moved.trans (by simpa using (joinedOne.append joinedMany).append others)
      have all := below.cons (Site.object ⟨⟨use, one, many⟩, none⟩)
      simpa [objects, objectsWithin, own, scanned, joinsOfOne, Join.allObjects,
        Join.allObjects_append, Comparison.objects, Expression.objects, sitesOfOne, sites,
        Site.object] using all

theorem objects_joinsOfMany (parent : String) (joins : List (Joined Relation))
    : (Join.allObjects (joinsOfMany options parent joins)).Perm
        ((sitesOfMany parent joins).map Site.object) := by
  match joins with
  | [] => exact .nil
  | ⟨keys, relation⟩ :: rest =>
      have nested :=
        objects_query (some ⟨parent, keys.foreignKey, keys.referencedKey⟩) relation
      have others := objects_joinsOfMany parent rest
      simpa [joinsOfMany, sitesOfMany, Join.allObjects, Source.objects, Comparison.objects,
        Expression.objects] using nested.append others

end

-----------------------------------------------------------------------------------------
-- From lists
-----------------------------------------------------------------------------------------

mutual

/-- What is joined goes by the aliases of relations below the parent, in the same order. -/
theorem names_joinsOfOne (parent : String) (joins : List (Joined Relation))
    : (((joinsOfOne options parent joins).map Join.source).map Source.name).Sublist
        ((usesOfAll joins).map (·.aliasName)) := by
  match joins with
  | [] => exact List.Sublist.slnil
  | ⟨keys, ⟨use, one, many⟩⟩ :: rest =>
      have joinedOne := names_joinsOfOne use.aliasName one
      have joinedMany := names_joinsOfMany use.aliasName many
      have others := names_joinsOfOne parent rest
      have all := ((joinedOne.append joinedMany).append others).cons_cons use.aliasName
      simpa [joinsOfOne, usesOfAll, uses, Join.source] using all

theorem names_joinsOfMany (parent : String) (joins : List (Joined Relation))
    : (((joinsOfMany options parent joins).map Join.source).map Source.name).Sublist
        ((usesOfAll joins).map (·.aliasName)) := by
  match joins with
  | [] => exact List.Sublist.slnil
  | ⟨keys, ⟨use, one, many⟩⟩ :: rest =>
      have others := names_joinsOfMany parent rest
      have below := (List.nil_sublist ((usesOfAll one ++ usesOfAll many).map (·.aliasName)))
      have all := (below.append others).cons_cons use.aliasName
      simpa [joinsOfMany, usesOfAll, uses, Join.source, Source.name] using all

end

/-- The from list of the select over a relation. -/
def fromList (correlation : Option Correlation) (relation : Relation) : List Source :=
  relation.use.scanSource options correlation
    :: (joinsOfOne options relation.use.aliasName relation.one
          ++ joinsOfMany options relation.use.aliasName relation.many).map Join.source

theorem names_fromList (correlation : Option Correlation) (relation : Relation)
    : ((relation.fromList options correlation).map Source.name).Sublist
        (relation.uses.map (·.aliasName)) := by
  match relation with
  | ⟨use, one, many⟩ =>
      have joinedOne := names_joinsOfOne options use.aliasName one
      have joinedMany := names_joinsOfMany options use.aliasName many
      have all := (joinedOne.append joinedMany).cons_cons use.aliasName
      simpa [fromList, uses] using all

theorem fromLists_scanSource (use : TableUse) (correlation : Option Correlation)
    : (use.scanSource options correlation).fromLists = [[use.tableSource correlation]] := by
  rfl

mutual

theorem fromLists_query (correlation : Option Correlation) (relation : Relation)
    (distinct : (relation.uses.map (·.aliasName)).Nodup)
    : ∀ sources ∈ (relation.query options correlation).fromLists,
        (sources.map Source.name).Nodup := by
  match relation with
  | ⟨use, one, many⟩ =>
      have own := distinct.sublist (names_fromList options correlation ⟨use, one, many⟩)
      rw [uses, List.map_cons, List.map_append] at distinct
      have below := distinct.of_cons
      have inOne := fromLists_joinsOfOne use.aliasName one below.of_append_left
      have inMany := fromLists_joinsOfMany use.aliasName many below.of_append_right
      intro sources inside
      rw [query, Query.fromLists, fromLists_scanSource, Join.allFromLists_append] at inside
      rcases List.mem_cons.mp inside with rfl | inside
      · exact own
      · rcases List.mem_append.mp inside with scanned | inside
        · obtain rfl := List.mem_singleton.mp scanned
          simp
        · rcases List.mem_append.mp inside with first | second
          · exact inOne sources first
          · exact inMany sources second

theorem fromLists_joinsOfOne (parent : String) (joins : List (Joined Relation))
    (distinct : ((usesOfAll joins).map (·.aliasName)).Nodup)
    : ∀ sources ∈ Join.allFromLists (joinsOfOne options parent joins),
        (sources.map Source.name).Nodup := by
  match joins with
  | [] => simp [joinsOfOne, Join.allFromLists]
  | ⟨keys, ⟨use, one, many⟩⟩ :: rest =>
      rw [usesOfAll, uses, List.cons_append, List.map_cons, List.map_append, List.map_append]
        at distinct
      have below := distinct.of_cons
      have inOne := fromLists_joinsOfOne use.aliasName one below.of_append_left.of_append_left
      have inMany := fromLists_joinsOfMany use.aliasName many below.of_append_left.of_append_right
      have inRest := fromLists_joinsOfOne parent rest below.of_append_right
      intro sources inside
      simp only [joinsOfOne, Join.allFromLists, Join.allFromLists_append, fromLists_scanSource,
        List.mem_append, List.mem_singleton] at inside
      rcases inside with rfl | (first | second) | third
      · simp
      · exact inOne sources first
      · exact inMany sources second
      · exact inRest sources third

theorem fromLists_joinsOfMany (parent : String) (joins : List (Joined Relation))
    (distinct : ((usesOfAll joins).map (·.aliasName)).Nodup)
    : ∀ sources ∈ Join.allFromLists (joinsOfMany options parent joins),
        (sources.map Source.name).Nodup := by
  match joins with
  | [] => simp [joinsOfMany, Join.allFromLists]
  | ⟨keys, relation⟩ :: rest =>
      rw [usesOfAll, List.map_append] at distinct
      have nested := fromLists_query (some ⟨parent, keys.foreignKey, keys.referencedKey⟩) relation
        distinct.of_append_left
      have inRest := fromLists_joinsOfMany parent rest distinct.of_append_right
      intro sources inside
      rcases List.mem_append.mp inside with first | second
      · exact nested sources first
      · exact inRest sources second

end

end Relation

end NestedSelect
