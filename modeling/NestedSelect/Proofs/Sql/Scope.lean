import NestedSelect.Proofs.Sql.Query
/-!
Scopes. A select list, a where clause and a group by clause see all sources of their own select. An
`on` clause and a lateral source see the sources on their left, the `on` clause also the source it
belongs to. What an enclosing select makes visible at the place of a subquery is visible inside of
it, unless a source of the subquery goes by the same name.
-/

namespace NestedSelect.Sql

/-- The name that the columns of a source are qualified with. -/
def Source.name : Source → String
  | .table name aliasName => aliasName.getD name
  | .derived _ aliasName => aliasName

def Join.source : Join → Source
  | .lateral _ source _ => source

-----------------------------------------------------------------------------------------
-- References
-----------------------------------------------------------------------------------------

mutual

/-- The qualified columns of an expression, each with its qualifier in front. -/
def Expression.columns : Expression → List (String × String)
  | .column qualifier name => [(qualifier, name)]
  | .text _ => []
  | .rowNumber => []
  | .stripNulls value => value.columns
  | .buildObject arguments => Expression.allColumns arguments
  | .unlessNull tested value => tested.columns ++ value.columns
  | .aggregate value order => value.columns ++ order.columns

def Expression.allColumns : List Expression → List (String × String)
  | [] => []
  | first :: rest => first.columns ++ Expression.allColumns rest

end

def Comparison.columns (comparison : Comparison) : List (String × String) :=
  comparison.left.columns ++ comparison.right.columns

def Output.columns : Output → List (String × String)
  | .all => []
  | .value expression _ => expression.columns

/-- An occurrence of a qualified column, with the sources that are visible at its place. -/
structure Reference where
  qualifier : String
  column : String
  /-- The visible sources of the select that the occurrence is part of. -/
  own : List Source
  /-- What enclosing selects make visible, from the innermost one outwards. -/
  outer : List Source

namespace Reference

/-- The occurrence of a column where some sources are visible. -/
def here (own outer : List Source) (column : String × String) : Reference :=
  ⟨column.1, column.2, own, outer⟩

/-- The source that a reference means: the innermost one of that name. -/
def binding? (reference : Reference) : Option Source :=
  (reference.own ++ reference.outer).find? fun source => source.name == reference.qualifier

end Reference

mutual

/-- All references in a query, where `outer` is visible around it. -/
def Query.references (outer : List Source) : Query → List Reference
  | .select outputs first joins condition grouping =>
    let own := first :: joins.map Join.source
    (outputs.flatMap Output.columns).map (.here own outer)
      ++ first.references outer
      ++ Join.allReferences [first] outer joins
      ++ (condition.toList.flatMap Comparison.columns).map (.here own outer)
      ++ (grouping.toList.flatMap Expression.columns).map (.here own outer)

/-- All references in a source, where `visible` is what its subquery may look at. -/
def Source.references (visible : List Source) : Source → List Reference
  | .table _ _ => []
  | .derived query _ => query.references visible

/-- All references in some joins, where `left` is what stands on their left. -/
def Join.allReferences (left outer : List Source) : List Join → List Reference
  | [] => []
  | .lateral _ source condition :: rest =>
    source.references (left ++ outer)
      ++ condition.columns.map (.here (left ++ [source]) outer)
      ++ Join.allReferences (left ++ [source]) outer rest

end

-----------------------------------------------------------------------------------------
-- Sources and expressions at any depth
-----------------------------------------------------------------------------------------

mutual

/-- The from lists of a query and of all queries inside of it. -/
def Query.fromLists : Query → List (List Source)
  | .select _ first joins _ _ =>
    (first :: joins.map Join.source) :: (first.fromLists ++ Join.allFromLists joins)

def Source.fromLists : Source → List (List Source)
  | .table _ _ => []
  | .derived query _ => query.fromLists

def Join.allFromLists : List Join → List (List Source)
  | [] => []
  | .lateral _ source _ :: rest => source.fromLists ++ Join.allFromLists rest

end

mutual

/-- The sources of a query and of all queries inside of it, in writing order. -/
def Query.sources : Query → List Source
  | .select _ first joins _ _ => first.sources ++ Join.allSources joins

def Source.sources : Source → List Source
  | .table name aliasName => [.table name aliasName]
  | .derived query aliasName => .derived query aliasName :: query.sources

def Join.allSources : List Join → List Source
  | [] => []
  | .lateral _ source _ :: rest => source.sources ++ Join.allSources rest

end

mutual

/-- The arguments of all JSON objects that an expression builds, the outer ones first. -/
def Expression.objects : Expression → List (List Expression)
  | .column _ _ => []
  | .text _ => []
  | .rowNumber => []
  | .stripNulls value => value.objects
  | .buildObject arguments => arguments :: Expression.allObjects arguments
  | .unlessNull tested value => tested.objects ++ value.objects
  | .aggregate value order => value.objects ++ order.objects

def Expression.allObjects : List Expression → List (List Expression)
  | [] => []
  | first :: rest => first.objects ++ Expression.allObjects rest

end

def Comparison.objects (comparison : Comparison) : List (List Expression) :=
  comparison.left.objects ++ comparison.right.objects

def Output.objects : Output → List (List Expression)
  | .all => []
  | .value expression _ => expression.objects

mutual

/-- The arguments of all JSON objects that are built anywhere in a query. -/
def Query.objects : Query → List (List Expression)
  | .select outputs first joins condition grouping =>
    outputs.flatMap Output.objects
      ++ first.objects
      ++ Join.allObjects joins
      ++ condition.toList.flatMap Comparison.objects
      ++ grouping.toList.flatMap Expression.objects

def Source.objects : Source → List (List Expression)
  | .table _ _ => []
  | .derived query _ => query.objects

def Join.allObjects : List Join → List (List Expression)
  | [] => []
  | .lateral _ source condition :: rest =>
    source.objects ++ condition.objects ++ Join.allObjects rest

end

-----------------------------------------------------------------------------------------
-- What queries export
-----------------------------------------------------------------------------------------

/-- The output makes a column of the name, where `*` makes any that its source may have. -/
def Output.Exports (column : String) : Output → Prop
  | .all => True
  | .value _ (some name) => name = column
  | .value (.column _ name) none => name = column
  | .value _ none => False

/-- The source has a column of the name. Which ones a table has is not known here. -/
def Source.Exports (column : String) : Source → Prop
  | .table _ _ => True
  | .derived (.select outputs _ _ _ _) _ => ∃ output ∈ outputs, output.Exports column

-----------------------------------------------------------------------------------------
-- Lookup
-----------------------------------------------------------------------------------------

/-- Among sources of different names each one is found by its name. -/
theorem find?_name {sources : List Source} (distinct : (sources.map Source.name).Nodup)
    {source : Source} (member : source ∈ sources)
    : sources.find? (fun other => other.name == source.name) = some source := by
  induction sources with
  | nil => simp at member
  | cons first rest ih =>
      obtain ⟨fresh, distinct⟩ := List.nodup_cons.mp distinct
      rcases List.mem_cons.mp member with rfl | behind
      · simp
      · have other : first.name ≠ source.name := by
          intro same
          exact fresh (same ▸ List.mem_map_of_mem behind)
        rw [List.find?_cons_of_neg (by simpa using other)]
        exact ih distinct behind

/-- No source is found by a name that none of them has. -/
theorem find?_name_eq_none {sources : List Source} {name : String}
    (absent : name ∉ sources.map Source.name)
    : sources.find? (fun other => other.name == name) = none := by
  rw [List.find?_eq_none]
  intro source member same
  exact absent (List.mem_map.mpr ⟨source, member, by simpa using same⟩)

namespace Reference

variable {reference : Reference}

/-- A source of the own select is what a reference by its name means. -/
theorem binding?_own (distinct : (reference.own.map Source.name).Nodup) {source : Source}
    (member : source ∈ reference.own) (named : source.name = reference.qualifier)
    : reference.binding? = some source := by
  rw [binding?, List.find?_append, ← named, find?_name distinct member, Option.some_or]

/-- A name that no source of the own select goes by means what it does outside. -/
theorem binding?_outer (absent : reference.qualifier ∉ reference.own.map Source.name)
    : reference.binding?
        = reference.outer.find? fun source => source.name == reference.qualifier := by
  rw [binding?, List.find?_append, find?_name_eq_none absent, Option.none_or]

end Reference

-----------------------------------------------------------------------------------------
-- Joins in a row
-----------------------------------------------------------------------------------------

namespace Join

theorem allReferences_append (left outer : List Source) (front back : List Join)
    : allReferences left outer (front ++ back)
        = allReferences left outer front
          ++ allReferences (left ++ front.map source) outer back := by
  induction front generalizing left with
  | nil => simp [allReferences]
  | cons join rest ih =>
      cases join
      simp [allReferences, ih, source]

theorem allFromLists_append (front back : List Join)
    : allFromLists (front ++ back) = allFromLists front ++ allFromLists back := by
  induction front with
  | nil => rfl
  | cons join rest ih =>
      cases join
      simp [allFromLists, ih]

theorem allSources_append (front back : List Join)
    : allSources (front ++ back) = allSources front ++ allSources back := by
  induction front with
  | nil => rfl
  | cons join rest ih =>
      cases join
      simp [allSources, ih]

theorem allObjects_append (front back : List Join)
    : allObjects (front ++ back) = allObjects front ++ allObjects back := by
  induction front with
  | nil => rfl
  | cons join rest ih =>
      cases join
      simp [allObjects, ih]

end Join

namespace Expression

theorem allColumns_append (front back : List Expression)
    : allColumns (front ++ back) = allColumns front ++ allColumns back := by
  induction front with
  | nil => rfl
  | cons first rest ih => simp [allColumns, ih]

theorem allObjects_append (front back : List Expression)
    : allObjects (front ++ back) = allObjects front ++ allObjects back := by
  induction front with
  | nil => rfl
  | cons first rest ih => simp [allObjects, ih]

end Expression

end NestedSelect.Sql
