import Mathlib.Data.List.Nodup
import NestedSelect.Proofs.Relation.TreeCorrespondence
import NestedSelect.Statement.Rendering
/-!
The order of siblings in a join tree. Children are resolved in the order in which their relations
are declared, and distinct siblings never compete for a position. So a tree and a rearranged one
build the same relation tree, or neither builds any.
-/

namespace NestedSelect

variable {size : Nat}

/-- The trees are equal up to the order of the children at each node. A pair is made of a child of
the one and of what has become of it in the other.
-/
inductive JoinNode.Rearranged : JoinNode → JoinNode → Prop
  | intro {fieldName : String} {spec : JoinSpec} {explicit : Bool} {left right : List JoinNode}
    (pairs : List (JoinNode × JoinNode))
    (all : pairs.map Prod.fst = left)
    (same : (pairs.map Prod.snd).Perm right)
    (below : ∀ pair ∈ pairs, Rearranged pair.1 pair.2)
    : Rearranged ⟨fieldName, spec, explicit, left⟩ ⟨fieldName, spec, explicit, right⟩

theorem JoinNode.Rearranged.fieldName_eq {left right : JoinNode}
    (rearranged : left.Rearranged right)
    : left.fieldName = right.fieldName := by
  cases rearranged
  rfl

-----------------------------------------------------------------------------------------
-- Declaration order
-----------------------------------------------------------------------------------------

namespace Place

variable (place : Place size)

/-- Distinct siblings have one declaration order, whatever their order in the tree. -/
theorem ordered_eq_of_perm {left right : List JoinNode} (same : left.Perm right)
    (distinct : (left.map (·.fieldName)).Nodup)
    : place.ordered left = place.ordered right := by
  refine List.Perm.eq_of_pairwise ?_ (place.ordered_pairwise left) (place.ordered_pairwise right) ?_
  · intro first second firstMember secondMember before after
    obtain ⟨firstInside, firstFound⟩ :=
      Schema.mem_linked ((place.ordered_perm left).mem_iff.mp firstMember)
    obtain ⟨secondInside, secondFound⟩ :=
      Schema.mem_linked ((place.ordered_perm right).mem_iff.mp secondMember)
    obtain ⟨link, name⟩ :=
      Schema.findRelation?_of_position firstFound secondFound (Nat.le_antisymm before after)
    have node : first.1 = second.1 :=
      List.inj_on_of_nodup_map distinct firstInside (same.mem_iff.mpr secondInside) name
    exact Prod.ext node link
  · have linked : (place.schema.linked left).Perm (place.schema.linked right) := same.filterMap _
    exact (place.ordered_perm left).trans (linked.trans (place.ordered_perm right).symm)

/-- Pairs of children with equal names are in step in declaration order. -/
theorem ordered_inStep {pairs : List (JoinNode × JoinNode)}
    (names : ∀ pair ∈ pairs, pair.1.fieldName = pair.2.fieldName)
    : List.Forall₂
        (fun (first second : JoinNode × RelationLink size) =>
          (first.1, second.1) ∈ pairs ∧ first.2 = second.2)
        (place.ordered (pairs.map Prod.fst)) (place.ordered (pairs.map Prod.snd)) := by
  have nodes
      : List.Forall₂ (fun first second => (first, second) ∈ pairs) (pairs.map Prod.fst)
          (pairs.map Prod.snd) := by
    rw [List.forall₂_map_left_iff, List.forall₂_map_right_iff, List.forall₂_same]
    exact fun pair member => member
  have linked
      : List.Forall₂
          (fun (first second : JoinNode × RelationLink size) =>
            (first.1, second.1) ∈ pairs ∧ first.2 = second.2)
          (place.schema.linked (pairs.map Prod.fst))
          (place.schema.linked (pairs.map Prod.snd)) := by
    refine List.rel_filterMap (fun first second member => ?_) nodes
    rw [names _ member]
    cases place.schema.findRelation? second.fieldName with
    | none => exact .none
    | some link => exact .some ⟨member, rfl⟩
  have positions
      : List.Forall₂ Eq (List.range place.schema.relations.length)
          (List.range place.schema.relations.length) :=
    List.forall₂_same.mpr fun _ _ => rfl
  refine List.rel_flatMap positions fun position _ same => ?_
  subst same
  refine List.rel_filter (fun first second paired => ?_) linked
  have name : first.1.fieldName = second.1.fieldName := names _ paired.1
  simp only [name]

end Place

-----------------------------------------------------------------------------------------
-- Rearranged trees
-----------------------------------------------------------------------------------------

namespace JoinNode

variable (catalog : Catalog size)

/-- Both nodes make the same relation at a place, or none. -/
def MakeSame (left right : JoinNode) : Prop :=
  ∀ (place : Place size) (relation : Relation),
    (left.relate catalog place).outcome = .ok relation
    ↔ (right.relate catalog place).outcome = .ok relation

variable {catalog}

/-- Children of one name are joined alike if they make the same relation. -/
theorem MakeSame.joinBranch {left right : JoinNode} (same : MakeSame catalog left right)
    (name : left.fieldName = right.fieldName) (place : Place size) (link : RelationLink size)
    (join : RelationKind × Joined Relation)
    : (place.joinBranch catalog (place.foundBranch catalog (left, link))).outcome = .ok join
      ↔ (place.joinBranch catalog (place.foundBranch catalog (right, link))).outcome
        = .ok join := by
  have paths : place.childPath left.fieldName = place.childPath right.fieldName := by rw [name]
  simp only [Place.joinBranch, Place.foundBranch, branch, Traced.outcome_bind, bind_eq_ok_iff,
    same _ _, paths]

/-- Rearranged trees make the same relation at each place. By induction over the rearrangement: the
pairs of children are in step once they are in declaration order.
-/
theorem Rearranged.makeSame {left right : JoinNode} (rearranged : left.Rearranged right)
    (distinct : left.DistinctSiblings)
    : MakeSame catalog left right := by
  induction rearranged with
  | @intro fieldName spec explicit _ right pairs all same below ih =>
      subst all
      intro place relation
      have names (pair : JoinNode × JoinNode) (member : pair ∈ pairs) :=
        (below pair member).fieldName_eq
      have named
          : (pairs.map Prod.fst).map (·.fieldName) = (pairs.map Prod.snd).map (·.fieldName) := by
        simpa using names
      have siblings : ((pairs.map Prod.snd).map (·.fieldName)).Nodup :=
        named ▸ EveryLevel.top distinct
      have lookups
          : (∀ node ∈ pairs.map Prod.fst,
                ∃ link, place.schema.findRelation? node.fieldName = some link)
            ↔ ∀ node ∈ right, ∃ link, place.schema.findRelation? node.fieldName = some link := by
        simp only [← same.mem_iff, List.forall_mem_map]
        exact forall₂_congr fun pair member => by rw [names pair member]
      have inStep
          : List.Forall₂
              (fun first second =>
                ∀ join,
                  (place.joinBranch catalog (place.foundBranch catalog first)).outcome = .ok join
                  ↔ (place.joinBranch catalog (place.foundBranch catalog second)).outcome
                    = .ok join)
              (place.ordered (pairs.map Prod.fst)) (place.ordered right) := by
        rw [← place.ordered_eq_of_perm same siblings]
        refine (place.ordered_inStep names).imp ?_
        rintro ⟨first, link⟩ ⟨second, _⟩ ⟨member, rfl⟩
        have child := EveryLevel.child distinct (List.mem_map_of_mem (f := Prod.fst) member)
        exact (ih _ member child).joinBranch (names _ member) place link
      rw [relate, relate, Place.relation_eq_ok_iff, Place.relation_eq_ok_iff, lookups]
      simp only [forall₂_iff_of_inStep inStep]

end JoinNode

/-- Two trees without repeated siblings that are equal up to the order of siblings are built alike:
both make one and the same relation tree, or both fail. So whatever is rendered from the one, with
its arguments, is rendered from the other.
-/
theorem build_ignores_sibling_order (catalog : Catalog size) (root : Fin size)
    {left right : JoinNode} (rearranged : left.Rearranged right)
    (distinct : left.DistinctSiblings)
    : ((∃ relation,
            (Relation.build catalog root left).outcome = .ok relation
            ∧ (Relation.build catalog root right).outcome = .ok relation)
          ∨ ∃ leftError rightError,
            (Relation.build catalog root left).outcome = .error leftError
            ∧ (Relation.build catalog root right).outcome = .error rightError)
      ∧ ∀ options rendered,
          (Relation.build catalog root left).outcome >>= (·.render options) = .ok rendered
          ↔ (Relation.build catalog root right).outcome >>= (·.render options)
            = .ok rendered := by
  have same (relation : Relation)
      : (Relation.build catalog root left).outcome = .ok relation
        ↔ (Relation.build catalog root right).outcome = .ok relation := by
    simp only [Relation.build, Traced.outcome_bind, bind_eq_ok_iff,
      rearranged.makeSame distinct _ relation]
  refine ⟨?_, fun options rendered => by simp only [bind_eq_ok_iff, same]⟩
  cases leftOutcome : (Relation.build catalog root left).outcome with
  | ok relation => exact .inl ⟨relation, rfl, (same relation).mp leftOutcome⟩
  | error leftError =>
      cases rightOutcome : (Relation.build catalog root right).outcome with
      | ok relation =>
          rw [(same relation).mpr rightOutcome] at leftOutcome
          contradiction
      | error rightError => exact .inr ⟨leftError, rightError, rfl, rfl⟩

/-- The songs of the user of a song, each with its singer and its user. -/
def songsWithSingers : JoinNode :=
  ⟨"", {}, true,
    [⟨"singer", {}, true, []⟩,
      ⟨"user", {}, true,
        [⟨"songs", {}, true, [⟨"singer", {}, true, []⟩, ⟨"user", {}, true, []⟩]⟩]⟩]⟩

/-- The same with siblings the other way round, at the root and below the songs. -/
def songsWithUsers : JoinNode :=
  ⟨"", {}, true,
    [⟨"user", {}, true,
        [⟨"songs", {}, true, [⟨"user", {}, true, []⟩, ⟨"singer", {}, true, []⟩]⟩]⟩,
      ⟨"singer", {}, true, []⟩]⟩

/-- Both are built and rendered alike, with the user in front of the singer as declared. -/
theorem build_ignores_sibling_order_of_songs
    : ∃ relation,
        (Relation.build songsAndUsers 0 songsWithSingers).outcome = .ok relation
        ∧ (Relation.build songsAndUsers 0 songsWithUsers).outcome = .ok relation
        ∧ relation.one.map (·.keys.jsonKey) = ["user", "singer"]
        ∧ ∀ options rendered,
            (Relation.build songsAndUsers 0 songsWithSingers).outcome >>= (·.render options)
              = .ok rendered
            ↔ (Relation.build songsAndUsers 0 songsWithUsers).outcome >>= (·.render options)
              = .ok rendered := by
  -- The trees are put together of leaves, single children and two children in either order.
  have leaf (name : String) : JoinNode.Rearranged ⟨name, {}, true, []⟩ ⟨name, {}, true, []⟩ :=
    .intro [] rfl .nil (by simp)
  have single {left right : JoinNode} (name : String) (child : left.Rearranged right)
      : JoinNode.Rearranged ⟨name, {}, true, [left]⟩ ⟨name, {}, true, [right]⟩ :=
    .intro [(left, right)] rfl .rfl (by simpa using child)
  have swapped {first second first' second' : JoinNode} (name : String)
      (one : first.Rearranged first') (other : second.Rearranged second')
      : JoinNode.Rearranged ⟨name, {}, true, [first, second]⟩
          ⟨name, {}, true, [second', first']⟩ :=
    .intro [(first, first'), (second, second')] rfl (.swap ..) (by simpa using ⟨one, other⟩)
  have rearranged : songsWithSingers.Rearranged songsWithUsers :=
    swapped "" (leaf "singer")
      (single "user" (swapped "songs" (leaf "singer") (leaf "user")))
  have bare (name : String) : JoinNode.DistinctSiblings ⟨name, {}, true, []⟩ :=
    .of_children List.nodup_nil (by simp)
  have songs
      : JoinNode.DistinctSiblings
          ⟨"songs", {}, true, [⟨"singer", {}, true, []⟩, ⟨"user", {}, true, []⟩]⟩ :=
    .of_children (by decide) (by simpa using ⟨bare "singer", bare "user"⟩)
  have user : JoinNode.DistinctSiblings ⟨"user", {}, true, [_]⟩ :=
    .of_children (by decide) (List.forall_mem_singleton.mpr songs)
  have distinct : songsWithSingers.DistinctSiblings :=
    .of_children (by decide)
      (List.forall_mem_cons.mpr ⟨bare "singer", List.forall_mem_singleton.mpr user⟩)
  have built
      : ∃ relation,
          (Relation.build songsAndUsers 0 songsWithSingers).outcome = .ok relation
          ∧ relation.one.map (·.keys.jsonKey) = ["user", "singer"] :=
    ⟨_, rfl, rfl⟩
  obtain ⟨relation, success, declared⟩ := built
  obtain ⟨outcomes, renderings⟩ :=
    build_ignores_sibling_order songsAndUsers 0 rearranged distinct
  rcases outcomes with ⟨same, first, second⟩ | ⟨_, _, failure, _⟩
  · obtain rfl := Except.ok.inj (success.symm.trans first)
    exact ⟨relation, success, second, declared, renderings⟩
  · rw [success] at failure
    contradiction

end NestedSelect
