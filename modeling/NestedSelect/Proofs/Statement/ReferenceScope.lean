import NestedSelect.Proofs.Statement.StatementSites
import NestedSelect.Relation.Resolution
/-!
The scope of references. The projection of a select and its from clause are made by two recursions
of their own. Both go down one-relations and stop at many-relations, so whatever a statement refers
to stands in a from list that it sees.
-/

namespace NestedSelect

open Sql

namespace Relation

variable (options : RenderOptions)

-----------------------------------------------------------------------------------------
-- What references mean
-----------------------------------------------------------------------------------------

/-- One of the sources is that of a site by the name of the qualifier and has the column. -/
def Offered (sites : List Site) (sources : List Source) (column : String × String) : Prop :=
  ∃ site ∈ sites, ∃ source ∈ sources,
    source ∈ site.sources options
    ∧ site.aliasName = column.1
    ∧ source.name = column.1
    ∧ source.Exports column.2

/-- The reference means a source of the site that goes by its qualifier, and that has the column. -/
structure Meant (sites : List Site) (reference : Reference) : Prop where
  distinct : (reference.own.map Source.name).Nodup
  bound
    : ∃ site ∈ sites, ∃ source ∈ site.sources options,
        site.aliasName = reference.qualifier
        ∧ reference.binding? = some source
        ∧ source.Exports reference.column

/-- The name means a source of the site that goes by it, which has any column. -/
def Visible (sites : List Site) (sources : List Source) (name : String) : Prop :=
  ∀ column, ∃ site ∈ sites, ∃ source ∈ site.sources options,
    site.aliasName = name
    ∧ sources.find? (fun other => other.name == name) = some source
    ∧ source.Exports column

variable {options} {sites more : List Site} {sources others outer : List Source}
  {column : String × String}

theorem Offered.mono (offered : Offered options sites sources column) (wider : sites ⊆ more)
    (longer : sources ⊆ others)
    : Offered options more others column := by
  obtain ⟨site, inside, source, listed, facts⟩ := offered
  exact ⟨site, wider inside, source, longer listed, facts⟩

/-- What is offered by the sources of a select is meant there. -/
theorem Offered.meant (offered : Offered options sites sources column)
    (distinct : (sources.map Source.name).Nodup)
    : Meant options sites (.here sources outer column) := by
  obtain ⟨site, inside, source, listed, rendered, aliasName, name, exports⟩ := offered
  refine ⟨distinct, site, inside, source, rendered, aliasName, ?_, exports⟩
  exact Reference.binding?_own distinct listed name

-----------------------------------------------------------------------------------------
-- Projections
-----------------------------------------------------------------------------------------

theorem self_mem_sites (correlation : Option Correlation) (relation : Relation)
    : ⟨relation, correlation⟩ ∈ relation.sites correlation := by
  cases relation
  exact List.mem_cons_self

/-- The scan of a relation offers any column of it. -/
theorem offered_scan {site : Site} (inside : site ∈ sites) (listed : site.scan options ∈ sources)
    (name : String)
    : Offered options sites sources (site.aliasName, name) := by
  refine ⟨site, inside, site.scan options, listed, ?_, rfl, rfl, ?_⟩
  · exact List.mem_append_right _ List.mem_cons_self
  · exact ⟨.all, List.mem_cons_self, trivial⟩

variable (options) in
/-- A select offers all columns of the scan that it starts with. -/
theorem offered_first (correlation : Option Correlation) (relation : Relation) (name : String)
    : Offered options (relation.sites correlation) (relation.fromList options correlation)
        (relation.use.aliasName, name) :=
  offered_scan (self_mem_sites correlation relation) List.mem_cons_self name

theorem mem_allColumns_memberArguments {members : List Member}
    (inside : column ∈ Expression.allColumns (memberArguments members))
    : ∃ member ∈ members, column ∈ member.2.columns := by
  induction members with
  | nil => simp [memberArguments, Expression.allColumns] at inside
  | cons member rest ih =>
      have split
          : memberArguments (member :: rest)
            = [.text member.1, member.2] ++ memberArguments rest := rfl
      rw [split, Expression.allColumns_append, List.mem_append] at inside
      rcases inside with first | behind
      · exact ⟨member, List.mem_cons_self, by
          simpa [Expression.allColumns, Expression.columns] using first⟩
      · obtain ⟨other, found, inside⟩ := ih behind
        exact ⟨other, List.mem_cons_of_mem _ found, inside⟩

/-- An object refers to the primary key of its relation and to what its members refer to. -/
theorem mem_columns_object {relation : Relation} (inside : column ∈ relation.object.columns)
    : (∃ key ∈ relation.use.primaryKey, column = (relation.use.aliasName, key))
      ∨ ∃ member ∈ relation.members, column ∈ member.2.columns := by
  have object : relation.object = relation.use.object relation.members := by
    cases relation
    rfl
  rw [object, TableUse.object] at inside
  cases key : relation.use.primaryKey with
  | none =>
      rw [key] at inside
      exact .inr (mem_allColumns_memberArguments inside)
  | some name =>
      rw [key] at inside
      rcases List.mem_append.mp inside with tested | inside
      · exact .inl ⟨name, rfl, List.mem_singleton.mp tested⟩
      · exact .inr (mem_allColumns_memberArguments inside)

variable (options) in
theorem sources_joinsOfOne_cons (parent : String) (keys : JoinKeys) (relation : Relation)
    (rest : List (Joined Relation))
    : (joinsOfOne options parent (⟨keys, relation⟩ :: rest)).map Join.source
        = relation.fromList options none ++ (joinsOfOne options parent rest).map Join.source := by
  cases relation
  simp [joinsOfOne, fromList, Join.source]

variable (options) in
theorem offered_arrays (parent : String) (joins : List (Joined Relation))
    : ∀ member ∈ arrays joins, ∀ column ∈ member.2.columns,
        Offered options (sitesOfMany parent joins)
          ((joinsOfMany options parent joins).map Join.source) column := by
  induction joins with
  | nil => simp [arrays]
  | cons joined rest ih =>
      obtain ⟨keys, ⟨use, one, many⟩⟩ := joined
      intro member inside column refers
      rcases List.mem_cons.mp inside with rfl | behind
      · obtain rfl := List.mem_singleton.mp refers
        -- The array is what the nested select of the child exports under this name.
        refine ⟨_, List.mem_cons_self, _, List.mem_cons_self, ?_, rfl, rfl, ?_⟩
        · exact List.mem_append_left _ List.mem_cons_self
        · exact ⟨_, List.mem_append_right _ List.mem_cons_self, rfl⟩
      · refine (ih member behind column refers).mono ?_ ?_
        · exact List.subset_append_right _ _
        · exact List.subset_cons_self _ _

variable (options) in
mutual

/-- All that an object refers to stands in the from list of its select. By induction over the tree:
the projection and the from list go down the same one-relations.
-/
theorem offered_object (correlation : Option Correlation) (relation : Relation)
    : ∀ column ∈ relation.object.columns,
        Offered options (relation.sites correlation) (relation.fromList options correlation)
          column := by
  match relation with
  | ⟨use, one, many⟩ =>
      intro column inside
      rcases mem_columns_object inside with ⟨key, _, rfl⟩ | ⟨member, inside, refers⟩
      · exact offered_first options correlation ⟨use, one, many⟩ key
      · rcases List.mem_append.mp inside with front | array
        · rcases List.mem_append.mp front with own | object
          · obtain ⟨field, _, rfl⟩ := List.mem_map.mp own
            obtain rfl := List.mem_singleton.mp refers
            exact offered_first options correlation ⟨use, one, many⟩ field.column
          · refine (offered_objects use.aliasName one member object column refers).mono ?_ ?_
            · intro site listed
              simp [sites, listed]
            · intro source listed
              rw [fromList, List.map_append]
              simp only [List.mem_cons, List.mem_append]
              exact .inr (.inl listed)
        · refine (offered_arrays options use.aliasName many member array column refers).mono ?_ ?_
          · intro site listed
            simp [sites, listed]
          · intro source listed
            rw [fromList, List.map_append]
            simp only [List.mem_cons, List.mem_append]
            exact .inr (.inr listed)

theorem offered_objects (parent : String) (joins : List (Joined Relation))
    : ∀ member ∈ objects joins, ∀ column ∈ member.2.columns,
        Offered options (sitesOfOne joins) ((joinsOfOne options parent joins).map Join.source)
          column := by
  match joins with
  | [] => simp [objects]
  | ⟨keys, relation⟩ :: rest =>
      intro member inside column refers
      rw [sources_joinsOfOne_cons]
      rcases List.mem_cons.mp inside with rfl | behind
      · refine (offered_object none relation column refers).mono ?_ ?_
        · exact List.subset_append_left _ _
        · exact List.subset_append_left _ _
      · refine (offered_objects parent rest member behind column refers).mono ?_ ?_
        · exact List.subset_append_right _ _
        · exact List.subset_append_right _ _

end

variable (options) in
theorem offered_outputs (correlation : Option Correlation) (relation : Relation)
    : ∀ column ∈ (relation.outputs options correlation).flatMap Output.columns,
        Offered options (relation.sites correlation) (relation.fromList options correlation)
          column := by
  have aggregate
      : ∀ column ∈ relation.object.columns ++ [(relation.use.aliasName, options.sequenceColumn)],
          Offered options (relation.sites correlation) (relation.fromList options correlation)
            column := by
    intro column inside
    rcases List.mem_append.mp inside with object | sequence
    · exact offered_object options correlation relation column object
    · obtain rfl := List.mem_singleton.mp sequence
      exact offered_first options correlation relation _
  intro column inside
  cases correlation with
  | none =>
      refine aggregate column ?_
      simpa [outputs, Output.columns, Expression.columns] using inside
  | some keys =>
      rw [outputs, List.flatMap_append, List.mem_append] at inside
      rcases inside with key | inside
      · obtain rfl : column = (relation.use.aliasName, keys.foreignKey) := by
          simpa [Output.columns, Expression.columns] using key
        exact offered_first options (some keys) relation _
      · refine aggregate column ?_
        simpa [Output.columns, Expression.columns] using inside

-----------------------------------------------------------------------------------------
-- From clauses
-----------------------------------------------------------------------------------------

/-- A scan refers to its own table and to its parent, which is visible around it. -/
theorem meant_scan {correlation : Option Correlation} {relation : Relation}
    (inside : relation.sites correlation ⊆ sites)
    (tied
      : ∀ keys ∈ correlation,
          keys.parentAlias ≠ relation.use.aliasName ∧ Visible options sites outer keys.parentAlias)
    : ∀ reference ∈ (relation.use.scanSource options correlation).references outer,
        Meant options sites reference := by
  intro reference member
  cases correlation with
  | none =>
      simp [TableUse.scanSource, Source.references, Query.references, TableUse.tableSource,
        Join.allReferences, Output.columns, Expression.columns] at member
  | some keys =>
      have site := inside (self_mem_sites (some keys) relation)
      have either
          : reference
                = .here [.table relation.use.table (some relation.use.aliasName)] outer
                    (relation.use.aliasName, keys.foreignKey)
            ∨ reference
                = .here [.table relation.use.table (some relation.use.aliasName)] outer
                    (keys.parentAlias, keys.referencedKey) := by
        simpa [TableUse.scanSource, Source.references, Query.references, TableUse.tableSource,
          Join.allReferences, Output.columns, Expression.columns, Correlation.comparison,
          Comparison.columns] using member
      rcases either with rfl | rfl
      · refine Offered.meant ⟨_, site, _, List.mem_singleton.mpr rfl, ?_, rfl, rfl, trivial⟩ ?_
        · exact List.mem_append_right _ (List.mem_cons_of_mem _ List.mem_cons_self)
        · exact List.nodup_singleton _
      · obtain ⟨apart, visible⟩ := tied keys rfl
        obtain ⟨parent, listed, source, rendered, aliasName, found, exports⟩ :=
          visible keys.referencedKey
        refine ⟨List.nodup_singleton _, parent, listed, source, rendered, aliasName, ?_, exports⟩
        rw [Reference.binding?_outer]
        · exact found
        · exact fun same => apart (List.mem_singleton.mp same)

-----------------------------------------------------------------------------------------
-- Joins
-----------------------------------------------------------------------------------------

variable (options) in
/-- What stands on the left of some joins: their parent, and nothing by the name of a use that is
still to come.
-/
structure Preceded (sites : List Site) (left : List Source) (parent : String)
    (coming : List TableUse)
    : Prop where
  distinct : (left.map Source.name ++ coming.map (·.aliasName)).Nodup
  sees : ∀ column, Offered options sites left (parent, column)

namespace Preceded

variable {left added : List Source} {parent : String} {before behind : List TableUse}

/-- Of what is to come only the first part is looked at. -/
theorem front (preceded : Preceded options sites left parent (before ++ behind))
    : Preceded options sites left parent before where
  distinct := by
    have all := preceded.distinct
    rw [List.map_append, ← List.append_assoc] at all
    exact all.of_append_left
  sees := preceded.sees

/-- The first uses have come, and some of them go by their names on the left from now on. -/
theorem step (preceded : Preceded options sites left parent (before ++ behind))
    (names : (added.map Source.name).Sublist (before.map (·.aliasName)))
    : Preceded options sites (left ++ added) parent behind where
  distinct := by
    have all := preceded.distinct
    rw [List.map_append] at all
    rw [List.map_append, List.append_assoc]
    exact all.sublist ((names.append_right _).append_left _)
  sees column := (preceded.sees column).mono (fun _ => id) (List.subset_append_left _ _)

/-- A source on the left may be the parent of what comes next. -/
theorem below (preceded : Preceded options sites left parent before) {other : String}
    (sees : ∀ column, Offered options sites left (other, column))
    : Preceded options sites left other before :=
  ⟨preceded.distinct, sees⟩

theorem apart (preceded : Preceded options sites left parent before) {use : TableUse}
    (member : use ∈ before)
    : parent ≠ use.aliasName := by
  obtain ⟨_, _, source, listed, _, _, named, _⟩ := preceded.sees ""
  have onLeft : parent ∈ left.map Source.name := List.mem_map.mpr ⟨source, listed, named⟩
  exact (List.nodup_append.mp preceded.distinct).2.2 _ onLeft _ (List.mem_map_of_mem member)

/-- Inside of a lateral source the parent on its left is visible. -/
theorem visible (preceded : Preceded options sites left parent before)
    : Visible options sites (left ++ outer) parent := by
  intro column
  obtain ⟨site, inside, source, listed, rendered, aliasName, rfl, exports⟩ := preceded.sees column
  refine ⟨site, inside, source, rendered, aliasName, ?_, exports⟩
  rw [List.find?_append, find?_name preceded.distinct.of_append_left listed, Option.some_or]

end Preceded

/-- An `on` clause refers to the source it belongs to and to the parent on its left. -/
theorem meant_onClause {left : List Source} {site : Site} {source : Source}
    {childColumn parent parentColumn : String} {coming : List TableUse}
    (preceded : Preceded options sites (left ++ [source]) parent coming) (inside : site ∈ sites)
    (rendered : source ∈ site.sources options) (named : source.name = site.aliasName)
    (exports : source.Exports childColumn)
    : ∀ reference ∈
        (Comparison.columns ⟨.column site.aliasName childColumn, .column parent parentColumn⟩).map
          (.here (left ++ [source]) outer),
        Meant options sites reference := by
  intro reference member
  obtain ⟨column, inColumns, rfl⟩ := List.mem_map.mp member
  refine Offered.meant ?_ preceded.distinct.of_append_left
  rcases List.mem_cons.mp inColumns with rfl | behind
  · exact ⟨site, inside, source, List.mem_append_right _ List.mem_cons_self, rendered, rfl, named,
      exports⟩
  · obtain rfl := List.mem_singleton.mp behind
    exact preceded.sees parentColumn

variable (options) in
mutual

/-- All references of a query mean what they are written for. By induction over the tree, where the
parent of a nested select is visible around it.
-/
theorem meant_query (correlation : Option Correlation) (relation : Relation)
    (outer : List Source) (inside : relation.sites correlation ⊆ sites)
    (distinct : (relation.uses.map (·.aliasName)).Nodup)
    (tied
      : ∀ keys ∈ correlation,
          keys.parentAlias ≠ relation.use.aliasName
          ∧ Visible options sites outer keys.parentAlias)
    : ∀ reference ∈ (relation.query options correlation).references outer,
        Meant options sites reference := by
  match relation with
  | ⟨use, one, many⟩ =>
      have own := distinct.sublist (names_fromList options correlation ⟨use, one, many⟩)
      have scanned := meant_scan inside tied
      have projected := offered_outputs options correlation ⟨use, one, many⟩
      have scan := offered_first options correlation ⟨use, one, many⟩
      have names := names_joinsOfOne options use.aliasName one
      have preceded
          : Preceded options sites [use.scanSource options correlation] use.aliasName
              (usesOfAll one ++ usesOfAll many) :=
        ⟨by simpa [uses] using distinct,
          offered_scan (inside (self_mem_sites correlation _)) List.mem_cons_self⟩
      intro reference member
      rw [query, Query.references, Join.allReferences_append] at member
      simp only [List.mem_append] at member
      rcases member with (((output | source) | first | second) | condition) | grouped
      · obtain ⟨column, listed, rfl⟩ := List.mem_map.mp output
        exact ((projected column listed).mono inside (fun _ => id)).meant own
      · exact scanned reference source
      · refine meant_joinsOfOne use.aliasName one _ outer ?_ preceded.front reference first
        exact fun site listed => inside (List.mem_cons_of_mem _ (List.mem_append_left _ listed))
      · refine meant_joinsOfMany use.aliasName many _ outer ?_ (preceded.step names)
          reference second
        exact fun site listed => inside (List.mem_cons_of_mem _ (List.mem_append_right _ listed))
      · simp at condition
      · cases correlation with
        | none => simp at grouped
        | some keys =>
            obtain ⟨column, listed, rfl⟩ := List.mem_map.mp grouped
            obtain rfl : column = (use.aliasName, keys.foreignKey) := by
              simpa [Expression.columns] using listed
            exact ((scan keys.foreignKey).mono inside (fun _ => id)).meant own

theorem meant_joinsOfOne (parent : String) (joins : List (Joined Relation))
    (left outer : List Source) (inside : sitesOfOne joins ⊆ sites)
    (preceded : Preceded options sites left parent (usesOfAll joins))
    : ∀ reference ∈ Join.allReferences left outer (joinsOfOne options parent joins),
        Meant options sites reference := by
  match joins with
  | [] => simp [joinsOfOne, Join.allReferences]
  | ⟨keys, ⟨use, one, many⟩⟩ :: rest =>
      have below : Relation.sites none ⟨use, one, many⟩ ⊆ sites :=
        fun site listed => inside (List.mem_append_left _ listed)
      have own : (⟨⟨use, one, many⟩, none⟩ : Site) ∈ sites := below (self_mem_sites none _)
      have namesOne := names_joinsOfOne options use.aliasName one
      have namesMany := names_joinsOfMany options use.aliasName many
      have inOrder
          : Preceded options sites left parent
              ([use] ++ (usesOfAll one ++ usesOfAll many ++ usesOfAll rest)) := by
        simpa [usesOfAll, uses] using preceded
      have behindScan
          : Preceded options sites (left ++ [use.scanSource options none]) parent
              (usesOfAll one ++ usesOfAll many ++ usesOfAll rest) :=
        inOrder.step (List.Sublist.refl _)
      have belowScan :=
        behindScan.front.below (offered_scan own (List.mem_append_right _ List.mem_cons_self))
      intro reference member
      simp only [joinsOfOne, Join.allReferences, Join.allReferences_append, List.mem_append]
        at member
      rcases member with (source | condition) | (first | second) | third
      · exact meant_scan below (by simp) reference source
      · refine meant_onClause behindScan own ?_ rfl ?_ reference condition
        · exact List.mem_append_right _ List.mem_cons_self
        · exact ⟨.all, List.mem_cons_self, trivial⟩
      · refine meant_joinsOfOne use.aliasName one _ outer ?_ belowScan.front reference first
        exact fun site listed => below (List.mem_cons_of_mem _ (List.mem_append_left _ listed))
      · refine meant_joinsOfMany use.aliasName many _ outer ?_ (belowScan.step namesOne)
          reference second
        exact fun site listed => below (List.mem_cons_of_mem _ (List.mem_append_right _ listed))
      · refine meant_joinsOfOne parent rest _ outer ?_ (behindScan.step ?_) reference third
        · exact fun site listed => inside (List.mem_append_right _ listed)
        · simpa using namesOne.append namesMany

theorem meant_joinsOfMany (parent : String) (joins : List (Joined Relation))
    (left outer : List Source) (inside : sitesOfMany parent joins ⊆ sites)
    (preceded : Preceded options sites left parent (usesOfAll joins))
    : ∀ reference ∈ Join.allReferences left outer (joinsOfMany options parent joins),
        Meant options sites reference := by
  match joins with
  | [] => simp [joinsOfMany, Join.allReferences]
  | ⟨keys, relation⟩ :: rest =>
      have below
          : relation.sites (some ⟨parent, keys.foreignKey, keys.referencedKey⟩) ⊆ sites :=
        fun site listed => inside (List.mem_append_left _ listed)
      have own := below (self_mem_sites _ _)
      have inOrder
          : Preceded options sites left parent (relation.uses ++ usesOfAll rest) := preceded
      have first : relation.use ∈ relation.uses := by
        cases relation
        exact List.mem_cons_self
      have behindNested
          : Preceded options sites
              (left
                ++ [.derived
                      (relation.query options
                        (some ⟨parent, keys.foreignKey, keys.referencedKey⟩))
                      relation.use.aliasName])
              parent (usesOfAll rest) :=
        inOrder.step (List.singleton_sublist.mpr (List.mem_map_of_mem first))
      intro reference member
      simp only [joinsOfMany, Join.allReferences, Source.references, List.mem_append] at member
      rcases member with (nested | condition) | others
      · refine meant_query _ relation _ below ?_ ?_ reference nested
        · exact inOrder.front.distinct.of_append_right
        · rintro _ ⟨⟩
          exact ⟨inOrder.front.apart first, preceded.visible⟩
      · refine meant_onClause behindNested own ?_ rfl ?_ reference condition
        · exact List.mem_append_left _ List.mem_cons_self
        · cases relation
          exact ⟨_, List.mem_cons_self, rfl⟩
      · refine meant_joinsOfMany parent rest _ outer ?_ behindNested reference others
        exact fun site listed => inside (List.mem_append_right _ listed)

end

end Relation

/-- Every qualified column of a statement means the relation it is written for. Without providers
and sort expressions a tree of relations with different aliases is rendered as a text that can be
read as one query only. Every reference in it finds a source by its qualifier, which is that of the
relation with this alias and which has the column. Where a select refers to a many-relation that it
has joined, it means the nested select, and that exports the column. No from list has two sources of
one name, and all relations have their sources and their object in the statement, each of them once.
-/
theorem references_mean_relations (relation : Relation) (options : RenderOptions)
    (distinct : (relation.uses.map (·.aliasName)).Nodup)
    (bare : ∀ use ∈ relation.uses, use.Bare)
    : ∃ (sql : String) (query : Query),
        relation.render options = .ok ⟨sql, []⟩
        ∧ (∀ other : Query, other.Reads sql ↔ other = query)
        ∧ (∀ reference ∈ query.references [],
            ∃ site ∈ relation.sites none, ∃ source ∈ site.sources options,
              site.aliasName = reference.qualifier
              ∧ reference.binding? = some source
              ∧ source.Exports reference.column)
        ∧ (∀ reference ∈ query.references [], ∀ site ∈ relation.sites none,
            ∀ nested ∈ site.nested? options,
              nested ∈ reference.own
              → reference.qualifier = site.aliasName
              → reference.binding? = some nested ∧ nested.Exports reference.column)
        ∧ (∀ sources ∈ query.fromLists, (sources.map Source.name).Nodup)
        ∧ query.sources = (relation.sites none).flatMap (Site.sources · options)
        ∧ query.objects.Perm ((relation.sites none).map Site.object)
        ∧ (relation.sites none).map (·.relation.use) = relation.uses := by
  obtain ⟨sql, rendered, reads⟩ := Relation.render_reads bare options
  have meant : ∀ reference ∈ (relation.query options none).references [],
      Relation.Meant options (relation.sites none) reference :=
    Relation.meant_query options none relation [] (fun _ => id) distinct (by simp)
  refine ⟨sql, relation.query options none, rendered, ?_, ?_, ?_, ?_, ?_, ?_, ?_⟩
  · intro other
    constructor
    · exact fun otherReads => otherReads.unique reads
    · rintro rfl
      exact reads
  · exact fun reference member => (meant reference member).bound
  · intro reference member site inside nested isNested listed qualified
    obtain ⟨own, other, otherInside, source, rendered, aliasName, bound, exports⟩ :=
      meant reference member
    have name : nested.name = reference.qualifier := by
      obtain ⟨keys, _, rfl⟩ := Option.map_eq_some_iff.mp isNested
      exact qualified.symm
    have found := Reference.binding?_own own listed name
    obtain rfl := Option.some.inj (bound.symm.trans found)
    exact ⟨found, exports⟩
  · exact Relation.fromLists_query options none relation distinct
  · exact Relation.sources_query options none relation
  · exact Relation.objects_query options none relation
  · exact Relation.map_use_sites none relation

/-- People who report to one another. -/
def staff : Catalog 1
  | 0 => {
      name := "Person"
      tableName := some "person"
      primaryKey := some "id"
      fields := [⟨"name", "name"⟩]
      relations := [.one "boss" "boss_id" 0, .many "reports" "boss_id" 0]
    }

/-- The boss of a person, all who report to the boss, and the boss of each of them. -/
def bossesOfPeers : JoinNode :=
  ⟨"", {}, true,
    [⟨"boss", {}, true, [⟨"reports", {}, true, [⟨"boss", {}, true, []⟩]⟩]⟩]⟩

/-- Four uses of one table are told apart, with one-relations above and below a many-relation. -/
theorem references_mean_relations_of_staff
    : ∃ (relation : Relation) (sql : String) (query : Query),
        (Relation.build staff 0 bossesOfPeers).outcome = .ok relation
        ∧ relation.uses.length = 4
        ∧ (relation.uses.map (·.aliasName)).Nodup
        ∧ (∀ use ∈ relation.uses, use.Bare)
        ∧ relation.render {} = .ok ⟨sql, []⟩
        ∧ query.Reads sql
        ∧ ∀ reference ∈ query.references [], reference.binding?.isSome := by
  have built
      : ∃ relation : Relation,
          (Relation.build staff 0 bossesOfPeers).outcome = .ok relation
          ∧ relation.uses.length = 4
          ∧ (relation.uses.map (·.aliasName)).Nodup
          ∧ ∀ use ∈ relation.uses, use.spec.subquery.isNone ∧ use.spec.orderBy.isNone :=
    ⟨_, rfl, by decide, by decide, by decide⟩
  obtain ⟨relation, success, count, distinct, plain⟩ := built
  have bare : ∀ use ∈ relation.uses, use.Bare := fun use member =>
    ⟨Option.isNone_iff_eq_none.mp (plain use member).1,
      Option.isNone_iff_eq_none.mp (plain use member).2⟩
  obtain ⟨sql, query, rendered, reads, bound, _⟩ :=
    references_mean_relations relation {} distinct bare
  refine ⟨relation, sql, query, success, count, distinct, bare, rendered, (reads query).mpr rfl, ?_⟩
  intro reference member
  obtain ⟨_, _, _, _, _, found, _⟩ := bound reference member
  rw [found]
  rfl

end NestedSelect
