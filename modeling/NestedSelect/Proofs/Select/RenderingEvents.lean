import NestedSelect.Proofs.Relation.ResolutionTraces
import NestedSelect.Select
/-!
What a rendering reports. It reports the relations that it resolves, up to the first check that
fails, and last of all a statement that is complete. So the report of a finished rendering accounts
for all that was built, and so does that of a rendering which is given up later on.
-/

namespace NestedSelect

variable {size : Nat}

/-- The reports account for the relation that is built: for the join tree from the table of the root
schema on, and for all relations of the tree below the root.
-/
structure Select.AccountsFor (catalog : Catalog size) (select : Select size) (relation : Relation)
    (trace : List ResolvedRelation) : Prop where
  tree
    : ∃ schema,
        catalog.resolveTable select.root = .ok (schema, relation.use.table)
        ∧ Accounts catalog ⟨schema, relation.use.table, "", relation.use.table⟩ select.tree relation
            trace
  relations : trace.Perm relation.resolutions
  count : trace.length = select.tree.paths.length

/-- What is reported on the way to a relation tree accounts for it. -/
theorem Select.accountsFor_of_build {catalog : Catalog size} {select : Select size}
    {relation : Relation} (success : (select.relation catalog).outcome = .ok relation)
    : select.AccountsFor catalog relation (select.relation catalog).events := by
  obtain ⟨schema, table, target, accounts⟩ := Relation.accounts_of_build success
  obtain rfl : relation.use.table = table := congrArg TableUse.table accounts.use
  exact ⟨⟨schema, target, accounts⟩, accounts.perm_resolutions, accounts.length_eq⟩

/-- A rendering that succeeds accounts for the tree that it built, and then reports the statement.
One that fails behind a successful build reports the same without the statement. If the build fails,
then with the error of its first check that does not pass, and what is reported are the relations
that have passed all of their checks before.
-/
theorem events_account_for_select (catalog : Catalog size) (select : Select size)
    : (∀ rendered,
          select.render catalog = .ok rendered
          → ∃ relation,
              (select.relation catalog).outcome = .ok relation
              ∧ select.AccountsFor catalog relation (select.relation catalog).events
              ∧ select.events catalog
                = (select.relation catalog).events.map .resolved
                  ++ [.rendered relation.use.table select.joins.length rendered.sql
                        rendered.arguments.length])
      ∧ (∀ relation error,
          (select.relation catalog).outcome = .ok relation
          → select.render catalog = .error error
          → select.AccountsFor catalog relation (select.relation catalog).events
            ∧ select.events catalog = (select.relation catalog).events.map .resolved)
      ∧ ∀ error,
          (select.relation catalog).outcome = .error error
          → ∃ passed failing later,
              catalog.joinChecks select.root select.tree = passed ++ failing :: later
              ∧ (∀ check ∈ passed, check.failure? = none)
              ∧ failing.failure? = some error
              ∧ select.render catalog = .error error
              ∧ select.events catalog = (passed.filterMap (·.resolved?)).map .resolved := by
  refine ⟨?finished, ?unfinished, ?unbuilt⟩
  case finished =>
    intro rendered success
    obtain ⟨relation, built, complete⟩ := (bind_eq_ok_iff _ _ _).mp success
    refine ⟨relation, built, Select.accountsFor_of_build built, ?_⟩
    rw [Select.events, built]
    simp only [complete]
    rfl
  case unfinished =>
    intro relation error built failure
    have incomplete : relation.render select.options = .error error := by
      rw [Select.render, built] at failure
      exact failure
    refine ⟨Select.accountsFor_of_build built, ?_⟩
    rw [Select.events, built]
    simp only [incomplete, List.append_nil]
  case unbuilt =>
    intro error failure
    have follows := Relation.build_follows catalog select.root select.tree
    obtain ⟨passed, failing, later, all, before, fails, trace⟩ := follows.stops failure
    refine ⟨passed, failing, later, all, before, fails, ?_, ?_⟩
    · rw [Select.render, failure]
      rfl
    · have built : (select.relation catalog).events = passed.filterMap (·.resolved?) := trace
      rw [Select.events, failure, built]
      exact List.append_nil _

end NestedSelect
