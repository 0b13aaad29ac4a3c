import NestedSelect.Proofs.Join.ListedPaths
import NestedSelect.Proofs.Relation.TreeCorrespondence
import NestedSelect.Proofs.Statement.ArgumentAlignment
import NestedSelect.Proofs.Statement.StandingInquiries
import NestedSelect.Select
/-!
Joins that are added without a provider. Such a join may put new nodes into the join tree and change
how others are joined, but no provider comes or goes. So all providers are asked what they were
asked before, and their answers are spliced in with the same placeholders.
-/

namespace NestedSelect

-----------------------------------------------------------------------------------------
-- Providers of a requested tree
-----------------------------------------------------------------------------------------

namespace JoinNode

theorem provider?_eq_standing? (tree : JoinNode) (names : List String)
    : tree.provider? names = (tree.standing? names).bind (·.2.subquery) := by
  rw [provider?, standing?, Option.bind_map]
  rfl

/-- The provider at a path is that of the last request for it. Nodes that are only passed through
have none.
-/
theorem provider?_build (rootSpec : JoinSpec) (requests : List (String × JoinSpec))
    (path : String)
    : (build rootSpec requests).provider? (segments path)
        = (lastFor? path requests).bind (·.2.subquery) := by
  rw [provider?_eq_standing?, standing?_build]
  cases lastFor? path requests with
  | some request => rfl
  | none => cases firstBeyond? path requests <;> rfl

/-- Requests with the same providers at each path make trees with the same providers. -/
theorem provider?_build_congr (rootSpec : JoinSpec) {requests others : List (String × JoinSpec)}
    (same
      : ∀ path,
          (lastFor? path requests).bind (·.2.subquery)
            = (lastFor? path others).bind (·.2.subquery))
    (names : List String)
    : (build rootSpec requests).provider? names = (build rootSpec others).provider? names := by
  by_cases dotless : ∀ name ∈ names, '.' ∉ name.toList
  · cases names with
    | nil =>
        change (build rootSpec requests).spec.subquery = (build rootSpec others).spec.subquery
        rw [spec_build, spec_build]
    | cons first rest =>
        rw [← segments_dotted_of_dotless (List.cons_ne_nil first rest) dotless, provider?_build,
          provider?_build, same]
  · have none (requests : List (String × JoinSpec))
        : (build rootSpec requests).provider? names = none := by
      cases reached : (build rootSpec requests).descend? names with
      | none =>
          rw [provider?, reached]
          rfl
      | some node =>
          exact absurd ((wellNamed_build rootSpec requests).dotless_of_descend reached) dotless
    rw [none, none]

end JoinNode

-----------------------------------------------------------------------------------------
-- New requests
-----------------------------------------------------------------------------------------

namespace JoinRequests

/-- A request for a new path is put between the others. -/
theorem set_of_find?_eq_none {requests : JoinRequests} {path : String}
    (unregistered : requests.find? path = none) (spec : JoinSpec)
    : ∃ before after,
        requests = before ++ after ∧ requests.set path spec = before ++ (path, spec) :: after := by
  induction requests with
  | nil => exact ⟨[], [], rfl, rfl⟩
  | cons request rest ih =>
      obtain ⟨first, held⟩ := request
      rw [find?_cons] at unregistered
      have apart : path ≠ first := by
        rintro rfl
        simp at unregistered
      rw [if_neg apart] at unregistered
      obtain ⟨before, after, split, put⟩ := ih unregistered
      rw [set, if_neg apart]
      split
      · exact ⟨[], _, rfl, rfl⟩
      · exact ⟨(first, held) :: before, after, by rw [split]; rfl, by rw [put]; rfl⟩

/-- A new request without a provider leaves the providers at all paths. -/
theorem provider_set {requests : JoinRequests} {path : String}
    (unregistered : requests.find? path = none) {spec : JoinSpec} (scanned : spec.subquery = none)
    (asked : String)
    : (lastFor? asked requests).bind (·.2.subquery)
        = (lastFor? asked (requests.set path spec)).bind (·.2.subquery) := by
  obtain ⟨before, after, rfl, put⟩ := set_of_find?_eq_none unregistered spec
  have others := find?_eq_none_iff.mp unregistered
  rw [put]
  by_cases same : asked = path
  · subst same
    rw [lastFor?_eq_none_iff.mpr others, lastFor?_append_cons before after asked spec fun later
      member => others later (List.mem_append_right before member)]
    exact scanned.symm
  · simp [lastFor?, Ne.symm same]

end JoinRequests

-----------------------------------------------------------------------------------------
-- Selects with one more join
-----------------------------------------------------------------------------------------

variable {size : Nat}

/-- A join at a new path that has no provider changes nothing about the inquiries of a select. -/
theorem Select.inquiries_joinSpec {catalog : Catalog size} {select : Select size} {path : String}
    {spec : JoinSpec} (unregistered : select.joins.find? path = none)
    (scanned : spec.subquery = none) {relation larger : Relation}
    (made : (select.relation catalog).outcome = .ok relation)
    (extended : ((select.joinSpec path spec).relation catalog).outcome = .ok larger)
    : larger.inquiries "" = relation.inquiries "" := by
  obtain ⟨schema, table, resolves, named, stands⟩ := Relation.stands_of_build made
  obtain ⟨_, _, sameResolves, sameNamed, largerStands⟩ := Relation.stands_of_build extended
  obtain rfl := Except.ok.inj (resolves.symm.trans sameResolves)
  obtain rfl := Option.some.inj (named.symm.trans sameNamed)
  refine (stands.inquiries_eq largerStands ?_ ?_ ?_ "").symm
  · exact JoinNode.distinctSiblings_build select.rootSpec select.joins
  · exact JoinNode.distinctSiblings_build select.rootSpec (select.joins.set path spec)
  · exact JoinNode.provider?_build_congr select.rootSpec
      (JoinRequests.provider_set unregistered scanned)

/-- A select that renders is joined to one more relation, at a path that has not been requested and
without a provider. If it still renders, it has the same arguments: all providers are asked in the
same order about the same conditions, and the same answers are spliced in with the same
placeholders. The new path may put several nodes into the tree, or make one explicit that was only
passed through.
-/
theorem join_without_provider_keeps_arguments (catalog : Catalog size) (select : Select size)
    (path : String) (joinType : JoinType) (orderBy : Option String)
    (unregistered : select.joins.find? path = none) {rendered extended : Rendered}
    (before : select.render catalog = .ok rendered)
    (after : (select.joinSpec path { joinType, orderBy }).render catalog = .ok extended)
    : extended.arguments = rendered.arguments
      ∧ ∃ relation larger fragments texts,
          (select.relation catalog).outcome = .ok relation
          ∧ ((select.joinSpec path { joinType, orderBy }).relation catalog).outcome = .ok larger
          ∧ larger.inquiries "" = relation.inquiries ""
          ∧ Answers (relation.inquiries "") fragments
          ∧ Spliced 0 fragments texts
          ∧ rendered.arguments = fragments.flatMap (·.arguments)
          ∧ rendered.sql
            = Draft.write select.options.layout
                ((relation.outline select.options none).fill texts)
          ∧ extended.sql
            = Draft.write select.options.layout
                ((larger.outline select.options none).fill texts) := by
  obtain ⟨relation, made, renders⟩ := (bind_eq_ok_iff _ _ _).mp before
  obtain ⟨larger, largerMade, largerRenders⟩ := (bind_eq_ok_iff _ _ _).mp after
  have inquiries := Select.inquiries_joinSpec unregistered rfl made largerMade
  obtain ⟨fragments, texts, answers, spliced, rfl⟩ :=
    (relation.renderAfter_eq_ok_iff _ 0 _).mp renders
  obtain ⟨others, otherTexts, otherAnswers, otherSpliced, rfl⟩ :=
    (larger.renderAfter_eq_ok_iff _ 0 _).mp largerRenders
  obtain rfl := answers.unique (inquiries ▸ otherAnswers)
  obtain rfl := spliced.unique otherSpliced
  exact ⟨rfl, relation, larger, fragments, texts, made, largerMade, inquiries, answers, spliced,
    rfl, rfl, rfl⟩

/-- A provider with one argument, which it refers to. -/
def pick (number : Int64) : Provider :=
  fun _ => .ok ⟨"select $1", [.int number]⟩

/-- Picked songs, each with its user and the picked songs of that user. -/
def pickedSongs : Select 2 where
  root := ⟨0, Nat.two_pos⟩
  rootSpec := { subquery := some (pick 7) }
  joins := [("user.songs", { subquery := some (pick 8) })]

/-- The join tree of picked songs, with what is asked of the user. -/
def pickedTree (userSpec : JoinSpec) (explicit : Bool) : JoinNode :=
  ⟨"", { subquery := some (pick 7) }, true,
    [⟨"user", userSpec, explicit, [⟨"songs", { subquery := some (pick 8) }, true, []⟩]⟩]⟩

/-- What the providers of the songs answer. -/
def pickedAnswers : List Subquery :=
  [⟨"select $1", [.int 7]⟩, ⟨"select $1", [.int 8]⟩]

theorem spliced_pickedAnswers : Spliced 0 pickedAnswers ["select $1", "select $2"] :=
  .cons rfl (.cons rfl .nil)

/-- However the user is joined and sorted, the tree renders with these answers. -/
theorem render_pickedTree (joinType : JoinType) (orderBy : Option String) (explicit : Bool)
    : ∃ relation rendered,
        (Relation.build songsAndUsers 0 (pickedTree ⟨joinType, none, orderBy⟩ explicit)).outcome
          = .ok relation
        ∧ relation.render {} = .ok rendered
        ∧ Answers (relation.inquiries "") pickedAnswers := by
  have built
      : ∃ relation,
          (Relation.build songsAndUsers 0 (pickedTree ⟨joinType, none, orderBy⟩ explicit)).outcome
            = .ok relation
          ∧ Answers (relation.inquiries "") pickedAnswers :=
    ⟨_, rfl, .cons rfl (.cons rfl .nil)⟩
  obtain ⟨relation, made, answers⟩ := built
  exact ⟨relation, _, made,
    (relation.renderAfter_eq_ok_iff {} 0 _).mpr ⟨_, _, answers, spliced_pickedAnswers, rfl⟩,
    answers⟩

/-- The user was only passed through. Once it is sorted and joined by an inner join, the songs of
the user still read the second argument.
-/
theorem join_without_provider_keeps_arguments_of_songs
    : ∃ rendered extended larger,
        pickedSongs.joins.find? "user" = none
        ∧ pickedSongs.render songsAndUsers = .ok rendered
        ∧ (pickedSongs.joinSpec "user" ⟨.inner, none, some "name"⟩).render songsAndUsers
          = .ok extended
        ∧ ((pickedSongs.joinSpec "user" ⟨.inner, none, some "name"⟩).relation
            songsAndUsers).outcome
          = .ok larger
        ∧ rendered.arguments = [.int 7, .int 8]
        ∧ extended.arguments = rendered.arguments
        ∧ extended.sql
          = Draft.write .compact
              ((Relation.outline {} none larger).fill ["select $1", "select $2"]) := by
  have unregistered : pickedSongs.joins.find? "user" = none :=
    JoinRequests.find?_eq_none_iff.mpr (by simp [pickedSongs])
  have user : segments "user" = ["user"] := by cbv
  have songs : segments "user.songs" = ["user", "songs"] := by cbv
  have inOrder : "user" < "user.songs" := by decide
  have tree : pickedSongs.tree = pickedTree {} false := by
    simp [Select.tree, pickedSongs, JoinNode.build, songs, JoinNode.root, JoinNode.insert,
      JoinNode.changeChild, JoinNode.implied, pickedTree]
  have extendedTree
      : (pickedSongs.joinSpec "user" ⟨.inner, none, some "name"⟩).tree
        = pickedTree ⟨.inner, none, some "name"⟩ true := by
    simp [Select.tree, Select.joinSpec, pickedSongs, JoinRequests.set, inOrder, JoinNode.build,
      user, songs, JoinNode.root, JoinNode.insert, JoinNode.changeChild, JoinNode.implied,
      pickedTree]
  obtain ⟨_, rendered, made, written, asked⟩ := render_pickedTree .left none false
  obtain ⟨_, extended, largerMade, largerWritten, _⟩ :=
    render_pickedTree .inner (some "name") true
  rw [← tree] at made
  rw [← extendedTree] at largerMade
  have before : pickedSongs.render songsAndUsers = .ok rendered :=
    (bind_eq_ok_iff _ _ _).mpr ⟨_, made, written⟩
  have after
      : (pickedSongs.joinSpec "user" ⟨.inner, none, some "name"⟩).render songsAndUsers
        = .ok extended :=
    (bind_eq_ok_iff _ _ _).mpr ⟨_, largerMade, largerWritten⟩
  obtain ⟨kept, _, larger, _, _, same, built, _, answers, moved, arguments, _, sql⟩ :=
    join_without_provider_keeps_arguments songsAndUsers pickedSongs "user" .inner (some "name")
      unregistered before after
  obtain rfl := Except.ok.inj (made.symm.trans same)
  obtain rfl := asked.unique answers
  obtain rfl := spliced_pickedAnswers.unique moved
  exact ⟨rendered, extended, larger, unregistered, before, after, built, arguments, kept, sql⟩

end NestedSelect
