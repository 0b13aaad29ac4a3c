import NestedSelect.Inspection.Describe
import NestedSelect.Proofs.Join.SortedRequests
/-!
The history of a select. What a sequence of building operations makes of a fresh select is decided
by the operations on each path and by those on the root, each taken on their own. How operations on
different paths are mixed leaves no trace.
-/

namespace NestedSelect

variable {size : Nat}

-----------------------------------------------------------------------------------------
-- Building operations
-----------------------------------------------------------------------------------------

/-- A building operation on a select. -/
inductive Operation where
  | subquery (provider : Provider)
  | orderBy (expression : String)
  | joinSpec (path : String) (spec : JoinSpec)
  | orderJoinBy (path expression : String)
  | join (joinType : JoinType) (path : String)
  | joinWith (joinType : JoinType) (path : String) (provider : Provider)
  | leftJoin (path : String)
  | rightJoin (path : String)
  | innerJoin (path : String)
  | fullOuterJoin (path : String)
  | leftJoinWith (path : String) (provider : Provider)
  | rightJoinWith (path : String) (provider : Provider)
  | innerJoinWith (path : String) (provider : Provider)
  | fullOuterJoinWith (path : String) (provider : Provider)
  | withOptions (options : RenderOptions)

namespace Operation

/-- What an operation makes of a select. -/
def apply (select : Select size) : Operation → Select size
  | .subquery provider => select.subquery provider
  | .orderBy expression => select.orderBy expression
  | .joinSpec path spec => select.joinSpec path spec
  | .orderJoinBy path expression => select.orderJoinBy path expression
  | .join joinType path => select.join joinType path
  | .joinWith joinType path provider => select.joinWith joinType path provider
  | .leftJoin path => select.leftJoin path
  | .rightJoin path => select.rightJoin path
  | .innerJoin path => select.innerJoin path
  | .fullOuterJoin path => select.fullOuterJoin path
  | .leftJoinWith path provider => select.leftJoinWith path provider
  | .rightJoinWith path provider => select.rightJoinWith path provider
  | .innerJoinWith path provider => select.innerJoinWith path provider
  | .fullOuterJoinWith path provider => select.fullOuterJoinWith path provider
  | .withOptions options => select.withOptions options

/-- The path that an operation is about. -/
def path? : Operation → Option String
  | .joinSpec path _ | .orderJoinBy path _ | .join _ path | .joinWith _ path _
  | .leftJoin path | .rightJoin path | .innerJoin path | .fullOuterJoin path
  | .leftJoinWith path _ | .rightJoinWith path _ | .innerJoinWith path _
  | .fullOuterJoinWith path _ => some path
  | .subquery _ | .orderBy _ | .withOptions _ => none

/-- The provider that an operation gives to the root. -/
def rootProvider? : Operation → Option Provider
  | .subquery provider => some provider
  | _ => none

/-- The expression that an operation sorts the root by. -/
def rootSort? : Operation → Option String
  | .orderBy expression => some expression
  | _ => none

def options? : Operation → Option RenderOptions
  | .withOptions options => some options
  | _ => none

/-- The spec that an operation puts in place of all that was asked for its path. -/
def replacement? : Operation → Option JoinSpec
  | .joinSpec _ spec => some spec
  | .join joinType _ => some { joinType }
  | .joinWith joinType _ provider => some { joinType, subquery := some provider }
  | .leftJoin _ => some { joinType := .left }
  | .rightJoin _ => some { joinType := .right }
  | .innerJoin _ => some { joinType := .inner }
  | .fullOuterJoin _ => some { joinType := .fullOuter }
  | .leftJoinWith _ provider => some { joinType := .left, subquery := some provider }
  | .rightJoinWith _ provider => some { joinType := .right, subquery := some provider }
  | .innerJoinWith _ provider => some { joinType := .inner, subquery := some provider }
  | .fullOuterJoinWith _ provider => some { joinType := .fullOuter, subquery := some provider }
  | _ => none

/-- The expression that an operation sorts its path by. -/
def sort? : Operation → Option String
  | .orderJoinBy _ expression => some expression
  | _ => none

end Operation

/-- A fresh select of a root table after some building operations. -/
def Select.after (root : Fin size) (operations : List Operation) : Select size :=
  operations.foldl Operation.apply { root }

-----------------------------------------------------------------------------------------
-- Histories
-----------------------------------------------------------------------------------------

/-- The operations on a path, in order. -/
def history (path : String) (operations : List Operation) : List Operation :=
  operations.filter (·.path? = some path)

/-- Both sequences do the same on each path, and the same on the root and on the options. -/
structure SameHistories (first second : List Operation) : Prop where
  paths : ∀ path, history path first = history path second
  providers : first.filterMap (·.rootProvider?) = second.filterMap (·.rootProvider?)
  sorts : first.filterMap (·.rootSort?) = second.filterMap (·.rootSort?)
  options : first.filterMap (·.options?) = second.filterMap (·.options?)

/-- The last expression that some operations sort their path by. -/
def lastSort (operations : List Operation) : Option String :=
  (operations.filterMap (·.sort?)).getLast?

/-- The spec that the operations on one path lead to. Up to the last replacement all is forgotten,
and sorting alone asks for a left join.
-/
structure LeadsTo (operations : List Operation) (held : Option JoinSpec) : Prop where
  replaced
    : ∀ before last spec after,
        operations = before ++ last :: after
        → last.replacement? = some spec
        → (∀ operation ∈ after, operation.replacement? = none)
        → held = some { spec with orderBy := (lastSort after).or spec.orderBy }
  sorted
    : (∀ operation ∈ operations, operation.replacement? = none)
      → held
        = (lastSort operations).map fun expression =>
            { joinType := .left, subquery := none, orderBy := some expression }

-----------------------------------------------------------------------------------------
-- The spec of a path
-----------------------------------------------------------------------------------------

/-- What is asked for a path after an operation on it. -/
def Operation.register (held : Option JoinSpec) (operation : Operation) : Option JoinSpec :=
  match operation.replacement?, operation.sort? with
  | some spec, _ => some spec
  | none, some expression => some { held.getD {} with orderBy := some expression }
  | none, none => held

/-- An operation changes what is asked for its own path and for no other one. -/
theorem Operation.find?_apply (select : Select size) (operation : Operation) (path : String)
    : (operation.apply select).joins.find? path
        = if operation.path? = some path then operation.register (select.joins.find? path)
          else select.joins.find? path := by
  have set (asked : String) (spec : JoinSpec)
      : (select.joins.set asked spec).find? path
          = if some asked = some path then some spec else select.joins.find? path := by
    rw [JoinRequests.find?_set]
    by_cases here : path = asked
    · rw [if_pos here, if_pos (congrArg some here.symm)]
    · rw [if_neg here, if_neg fun same => here (Option.some.inj same).symm]
  cases operation with
  | subquery provider => rfl
  | orderBy expression => rfl
  | withOptions options => rfl
  | orderJoinBy asked expression =>
      refine (set asked _).trans ?_
      by_cases here : some asked = some path
      · obtain rfl := Option.some.inj here
        rfl
      · rw [path?, if_neg here, if_neg here]
  | _ => exact set _ _

/-- After some operations a path is asked for what its own history leads to. By induction over the
operations, with the select as it stands before each.
-/
theorem Select.find?_foldl (select : Select size) (operations : List Operation) (path : String)
    : (operations.foldl Operation.apply select).joins.find? path
        = (history path operations).foldl Operation.register (select.joins.find? path) := by
  induction operations generalizing select with
  | nil => rfl
  | cons operation rest ih =>
      rw [List.foldl_cons, ih, Operation.find?_apply, history, history, List.filter_cons]
      by_cases here : operation.path? = some path <;> simp [here]

/-- Without a replacement only the last sort expression counts. -/
theorem foldl_register_sorts (held : JoinSpec) (operations : List Operation)
    (kept : ∀ operation ∈ operations, operation.replacement? = none)
    : operations.foldl Operation.register (some held)
        = some { held with orderBy := (lastSort operations).or held.orderBy } := by
  induction operations generalizing held with
  | nil => rfl
  | cons operation rest ih =>
      have first := kept operation (by simp)
      have later := fun spec => ih spec fun other member =>
        kept other (List.mem_cons_of_mem _ member)
      cases sort : operation.sort? with
      | none =>
          have unchanged : operation.register (some held) = some held := by
            simp [Operation.register, first, sort]
          rw [List.foldl_cons, unchanged, later, lastSort, lastSort,
            List.filterMap_cons_none sort]
      | some expression =>
          have sorted
              : operation.register (some held) = some { held with orderBy := some expression } := by
            simp [Operation.register, first, sort]
          rw [List.foldl_cons, sorted, later, lastSort, lastSort,
            List.filterMap_cons_some sort, List.getLast?_cons]
          cases (rest.filterMap (·.sort?)).getLast? <;> rfl

/-- The operations on a path lead to the spec that they register one after another. -/
theorem leadsTo_register (operations : List Operation)
    (onPath : ∀ operation ∈ operations, operation.replacement?.isSome ∨ operation.sort?.isSome)
    : LeadsTo operations (operations.foldl Operation.register none) where
  replaced := by
    intro before last spec after split replaces kept
    have forgotten (held : Option JoinSpec) : last.register held = some spec := by
      simp [Operation.register, replaces]
    rw [split, List.foldl_append, List.foldl_cons, forgotten, foldl_register_sorts spec after kept]
  sorted := by
    intro kept
    cases operations with
    | nil => rfl
    | cons operation rest =>
        have first := kept operation (by simp)
        have sorts := onPath operation (by simp)
        rw [first] at sorts
        obtain ⟨expression, sort⟩ := Option.isSome_iff_exists.mp (sorts.resolve_left (by simp))
        have fresh
            : operation.register none
              = some { joinType := .left, subquery := none, orderBy := some expression } := by
          simp [Operation.register, first, sort]
        rw [List.foldl_cons, fresh,
          foldl_register_sorts _ rest fun other member =>
            kept other (List.mem_cons_of_mem _ member),
          lastSort, lastSort, List.filterMap_cons_some sort, List.getLast?_cons]
        cases (rest.filterMap (·.sort?)).getLast? <;> rfl

/-- Every operation on a path replaces what is asked for it or sorts it. -/
theorem Operation.registers_of_path {operation : Operation} {path : String}
    (onPath : operation.path? = some path)
    : operation.replacement?.isSome ∨ operation.sort?.isSome := by
  cases operation <;> simp_all [path?, replacement?, sort?]

-----------------------------------------------------------------------------------------
-- The rest of a select
-----------------------------------------------------------------------------------------

namespace Select

/-- The paths of a select stay in order, by induction over the operations. -/
theorem ascending_foldl (operations : List Operation) {select : Select size}
    (ascending : select.joins.Ascending)
    : (operations.foldl Operation.apply select).joins.Ascending := by
  induction operations generalizing select with
  | nil => exact ascending
  | cons operation rest ih =>
      refine ih ?_
      cases operation with
      | subquery provider => exact ascending
      | orderBy expression => exact ascending
      | withOptions options => exact ascending
      | _ => exact ascending.set _ _

/-- Apart from its joins a select holds what it was given last for its root and as its options. By
induction over the operations.
-/
theorem foldl_eq (operations : List Operation) (select : Select size)
    : operations.foldl Operation.apply select
        = {
          root := select.root
          rootSpec := {
            joinType := select.rootSpec.joinType
            subquery :=
              (operations.filterMap (·.rootProvider?)).foldl (fun _ provider => some provider)
                select.rootSpec.subquery
            orderBy :=
              (operations.filterMap (·.rootSort?)).foldl (fun _ expression => some expression)
                select.rootSpec.orderBy
          }
          joins := (operations.foldl Operation.apply select).joins
          options :=
            (operations.filterMap (·.options?)).foldl (fun _ options => options) select.options
        } := by
  induction operations generalizing select with
  | nil => rfl
  | cons operation rest ih =>
      rw [List.foldl_cons, ih (operation.apply select)]
      cases operation <;> rfl

/-- Sequences with the same histories make the same select. -/
theorem after_eq_of_sameHistories (root : Fin size) {first second : List Operation}
    (same : SameHistories first second)
    : Select.after root first = Select.after root second := by
  let fresh : Select size := { root }
  have empty : fresh.joins.Ascending := List.Pairwise.nil
  have joins
      : (first.foldl Operation.apply fresh).joins = (second.foldl Operation.apply fresh).joins := by
    refine (ascending_foldl first empty).ext (ascending_foldl second empty) fun path => ?_
    rw [find?_foldl, find?_foldl, same.paths]
  change first.foldl Operation.apply fresh = second.foldl Operation.apply fresh
  rw [foldl_eq, joins, same.providers, same.sorts, same.options]
  exact (foldl_eq second fresh).symm

/-- A path holds what its history leads to. -/
theorem leadsTo_after (root : Fin size) (operations : List Operation) (path : String)
    : LeadsTo (history path operations) ((Select.after root operations).joins.find? path) := by
  rw [after, find?_foldl]
  refine leadsTo_register _ fun operation member => ?_
  exact Operation.registers_of_path (of_decide_eq_true (List.mem_filter.mp member).2)

end Select

/-- What two sequences of building operations make of a fresh select cannot be told apart if they
have the same histories: both give the same statement or the same error, report the same events and
are shown alike. Each path holds the spec that its own history leads to.
-/
theorem select_determined_by_histories (root : Fin size) (first second : List Operation)
    (same : SameHistories first second)
    : (∀ catalog : Catalog size,
          (Select.after root first).render catalog = (Select.after root second).render catalog
          ∧ (Select.after root first).events catalog = (Select.after root second).events catalog
          ∧ ((Select.after root first).document catalog).plain
            = ((Select.after root second).document catalog).plain
          ∧ ((Select.after root first).document catalog).pretty 0
            = ((Select.after root second).document catalog).pretty 0)
      ∧ ∀ path,
          LeadsTo (history path first) ((Select.after root first).joins.find? path)
          ∧ LeadsTo (history path second) ((Select.after root second).joins.find? path) := by
  have equal := Select.after_eq_of_sameHistories root same
  refine ⟨fun catalog => ?_, fun path => ?_⟩
  · rw [equal]
    exact ⟨rfl, rfl, rfl, rfl⟩
  · exact ⟨Select.leadsTo_after root first path, Select.leadsTo_after root second path⟩

/-- Songs are joined, sorted, joined anew and sorted again, before anything else is asked for. -/
def songsFirst : List Operation :=
  [.join .left "songs", .orderJoinBy "songs" "length", .innerJoin "songs",
    .orderJoinBy "songs" "title", .orderBy "name", .orderJoinBy "profile" "age"]

/-- The same for the songs, with all else in between. -/
def songsBetween : List Operation :=
  [.orderJoinBy "profile" "age", .join .left "songs", .orderJoinBy "songs" "length",
    .orderBy "name", .innerJoin "songs", .orderJoinBy "songs" "title"]

/-- A table of users with their songs. -/
def usersWithSongs : Catalog 2 := fun index =>
  if index.val = 0 then {
      name := "User"
      tableName := some "user"
      primaryKey := some "id"
      relations := [.many "songs" "user_id" (Fin.last 1), .many "profile" "user_id" (Fin.last 1)]
    }
  else { name := "Song", tableName := some "song" }

/-- Both orders make the same statement, in which the songs are an inner join by title. -/
theorem select_determined_by_histories_of_songs
    : SameHistories songsFirst songsBetween
      ∧ (Select.after 0 songsFirst).render usersWithSongs
        = (Select.after 0 songsBetween).render usersWithSongs
      ∧ (Select.after (0 : Fin 2) songsFirst).joins.find? "songs"
        = some { joinType := .inner, orderBy := some "title" }
      ∧ (Select.after (0 : Fin 2) songsBetween).joins.find? "profile"
        = some { joinType := .left, orderBy := some "age" } := by
  have same : SameHistories songsFirst songsBetween := by
    refine ⟨fun path => ?_, rfl, rfl, rfl⟩
    by_cases songs : "songs" = path
    · subst songs
      rfl
    · by_cases profile : "profile" = path
      · subst profile
        rfl
      · simp [history, songsFirst, songsBetween, Operation.path?, songs, profile]
  obtain ⟨alike, held⟩ := select_determined_by_histories (0 : Fin 2) _ _ same
  refine ⟨same, (alike usersWithSongs).1, ?_, ?_⟩
  · exact (held "songs").1.replaced [.join .left "songs", .orderJoinBy "songs" "length"]
      (.innerJoin "songs") { joinType := .inner } [.orderJoinBy "songs" "title"] rfl rfl
      (by simp [Operation.replacement?])
  · exact (held "profile").2.sorted (by
      simp [history, songsBetween, Operation.path?, Operation.replacement?])

end NestedSelect
