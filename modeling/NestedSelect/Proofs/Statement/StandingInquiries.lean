import Mathlib.Data.List.Sort
import NestedSelect.Proofs.Join.TreePaths
import NestedSelect.Proofs.Relation.BuiltTree
import NestedSelect.Proofs.Statement.Outline
/-!
The inquiries of a tree that stands at a place. Only nodes with a provider are asked, each about
what the way down to it finds. So trees with the same providers behind the same names make the same
inquiries in the same order, whatever other nodes they have and however these are joined.
-/

namespace NestedSelect

variable {size : Nat}

-----------------------------------------------------------------------------------------
-- Providers of a join tree
-----------------------------------------------------------------------------------------

namespace JoinNode

/-- The provider of the node that some field names lead to. -/
def provider? (tree : JoinNode) (names : List String) : Option Provider :=
  (tree.descend? names).bind (·.spec.subquery)

/-- The providers below a child are found behind its name. -/
theorem provider?_child {tree child : JoinNode} (distinct : tree.DistinctSiblings)
    (member : child ∈ tree.children) (names : List String)
    : tree.provider? (child.fieldName :: names) = child.provider? names := by
  have found : tree.child? child.fieldName = some child :=
    find?_of_mem (EveryLevel.top distinct) member
  rw [provider?, descend?, found]
  rfl

/-- What a provider is found behind is the name of a child. -/
theorem child_of_provider? {tree : JoinNode} {fieldName : String} {names : List String}
    {provider : Provider} (provided : tree.provider? (fieldName :: names) = some provider)
    : ∃ child ∈ tree.children, child.fieldName = fieldName := by
  obtain ⟨node, reached, _⟩ := Option.bind_eq_some_iff.mp provided
  obtain ⟨child, found, _⟩ := Option.bind_eq_some_iff.mp reached
  exact ⟨child, of_child?_eq_some found⟩

end JoinNode

-----------------------------------------------------------------------------------------
-- Inquiries child by child
-----------------------------------------------------------------------------------------

/-- The inquiries of a joined relation. One with many rows is asked about its keys. -/
def Joined.inquiries (parent : String) (kind : RelationKind) (joined : Joined Relation)
    : List Inquiry :=
  match kind with
  | .one => joined.relation.inquiries ""
  | .many =>
    joined.relation.inquiries
      (quoteIdentifier joined.relation.use.aliasName ++ "."
        ++ quoteIdentifier joined.keys.foreignKey ++ " = "
        ++ (quoteIdentifier parent ++ "." ++ quoteIdentifier joined.keys.referencedKey))

/-- A joined relation is asked what it is asked on its own about some condition. -/
theorem Joined.exists_inquiries_eq (parent : String) (kind : RelationKind)
    (joined : Joined Relation)
    : ∃ condition, joined.inquiries parent kind = joined.relation.inquiries condition := by
  cases kind with
  | one => exact ⟨_, rfl⟩
  | many => exact ⟨_, rfl⟩

/-- Relations that are joined by the same keys under the same name make the same inquiries, if they
do so about every condition.
-/
theorem Joined.inquiries_congr {joined other : Joined Relation} (keys : joined.keys = other.keys)
    (aliasName : joined.relation.use.aliasName = other.relation.use.aliasName)
    (same : ∀ condition, joined.relation.inquiries condition = other.relation.inquiries condition)
    (parent : String) (kind : RelationKind)
    : joined.inquiries parent kind = other.inquiries parent kind := by
  cases kind with
  | one => exact same ""
  | many => rw [inquiries, inquiries, keys, aliasName, same]

namespace Relation

theorem inquiriesOfOne_eq_flatMap (parent : String) (joins : List (Joined Relation))
    : inquiriesOfOne joins = joins.flatMap (·.inquiries parent .one) := by
  induction joins with
  | nil => rfl
  | cons join rest ih =>
      rw [inquiriesOfOne, ih]
      rfl

theorem inquiriesOfMany_eq_flatMap (parent : String) (joins : List (Joined Relation))
    : inquiriesOfMany parent joins = joins.flatMap (·.inquiries parent .many) := by
  induction joins with
  | nil => rfl
  | cons join rest ih =>
      rw [inquiriesOfMany, ih]
      rfl

/-- The inquiries of a use come first, then those of its children kind by kind. -/
theorem inquiries_of_children (condition : String) (use : TableUse)
    (declared : List (PlacedChild size))
    : Relation.inquiries condition
          ⟨use, joinedOfKind .one declared, joinedOfKind .many declared⟩
        = use.inquiries condition
          ++ [.one, .many].flatMap fun kind =>
            (declared.filter (·.link.kind = kind)).flatMap
              (·.joined.inquiries use.aliasName kind) := by
  rw [inquiries, inquiriesOfOne_eq_flatMap use.aliasName, inquiriesOfMany_eq_flatMap,
    List.append_assoc]
  simp [joinedOfKind, List.flatMap_map]

end Relation

-----------------------------------------------------------------------------------------
-- Ranked lists
-----------------------------------------------------------------------------------------

/-- What the members of a list yield, each with its rank, without those that yield nothing. -/
def rankedYields {α β : Type} (rank : α → Nat) (yield : α → List β) (items : List α)
    : List (Nat × List β) :=
  (items.map fun item => (rank item, yield item)).filter (!·.2.isEmpty)

section RankedYields

variable {α β : Type} (rank : α → Nat) {yield : α → List β}

theorem mem_rankedYields {items : List α} {ranked : Nat × List β}
    : ranked ∈ rankedYields rank yield items
      ↔ ∃ item ∈ items, yield item ≠ [] ∧ (rank item, yield item) = ranked := by
  simp only [rankedYields, List.mem_filter, List.mem_map, Bool.not_eq_true',
    List.isEmpty_eq_false_iff]
  constructor
  · rintro ⟨⟨item, member, rfl⟩, filled⟩
    exact ⟨item, member, filled, rfl⟩
  · rintro ⟨item, member, filled, rfl⟩
    exact ⟨⟨item, member, rfl⟩, filled⟩

theorem flatMap_rankedYields (items : List α)
    : (rankedYields rank yield items).flatMap Prod.snd = items.flatMap yield := by
  induction items with
  | nil => rfl
  | cons item rest ih =>
      rw [rankedYields] at ih ⊢
      rw [List.map_cons, List.filter_cons, List.flatMap_cons, ← ih]
      cases yielded : yield item <;> simp

/-- Two lists in strictly ascending order yield the same if each member that yields anything has a
counterpart of the same rank in the other list.
-/
theorem flatMap_eq_of_ranked {left right : List α}
    (leftOrder : left.Pairwise (rank · < rank ·)) (rightOrder : right.Pairwise (rank · < rank ·))
    (forth
      : ∀ item ∈ left,
          yield item ≠ [] → ∃ other ∈ right, rank item = rank other ∧ yield item = yield other)
    (back
      : ∀ item ∈ right,
          yield item ≠ [] → ∃ other ∈ left, rank item = rank other ∧ yield item = yield other)
    : left.flatMap yield = right.flatMap yield := by
  let before (first second : Nat × List β) : Prop := first.1 < second.1
  have : Std.Irrefl before := ⟨fun ranked => Nat.lt_irrefl ranked.1⟩
  have : Std.Antisymm before := ⟨fun _ _ less more => absurd more (Nat.lt_asymm less)⟩
  have ascending {items : List α} (order : items.Pairwise (rank · < rank ·))
      : (rankedYields rank yield items).Pairwise before :=
    List.Pairwise.filter _ (List.pairwise_map (R := before) |>.mpr order)
  have same : rankedYields rank yield left = rankedYields rank yield right := by
    refine (ascending leftOrder).eq_of_mem_iff (ascending rightOrder) fun ranked => ?_
    rw [mem_rankedYields, mem_rankedYields]
    constructor
    · rintro ⟨item, member, filled, rfl⟩
      obtain ⟨other, inside, ranks, yields⟩ := forth item member filled
      exact ⟨other, inside, yields ▸ filled, by rw [ranks, yields]⟩
    · rintro ⟨item, member, filled, rfl⟩
      obtain ⟨other, inside, ranks, yields⟩ := back item member filled
      exact ⟨other, inside, yields ▸ filled, by rw [ranks, yields]⟩
  rw [← flatMap_rankedYields rank left, same, flatMap_rankedYields]

end RankedYields

-----------------------------------------------------------------------------------------
-- Children under one name
-----------------------------------------------------------------------------------------

/-- The children of a node without repeated siblings stand in the order of their relations. -/
structure Declares (catalog : Catalog size) (place : Place size) (node : JoinNode)
    (children : List (PlacedChild size)) : Prop where
  distinct : node.DistinctSiblings
  nodes : ∀ child, child ∈ node.children ↔ ∃ placed ∈ children, placed.node = child
  ascending
    : children.Pairwise fun first second =>
        place.schema.relationPosition first.node.fieldName
          < place.schema.relationPosition second.node.fieldName
  fits : ∀ placed ∈ children, placed.Fits catalog place
  below : ∀ placed ∈ children, Stands catalog placed.place placed.node placed.joined.relation

/-- Children of different names have different positions, so declaration order has no ties. -/
theorem declares_of_distinct {catalog : Catalog size} {place : Place size} {node : JoinNode}
    {children declared : List (PlacedChild size)} (all : children.map (·.node) = node.children)
    (same : declared.Perm children)
    (inOrder
      : declared.Pairwise fun first second =>
          place.schema.relationPosition first.node.fieldName
            ≤ place.schema.relationPosition second.node.fieldName)
    (fits : ∀ child ∈ children, child.Fits catalog place)
    (below : ∀ child ∈ children, Stands catalog child.place child.node child.joined.relation)
    (distinct : node.DistinctSiblings)
    : Declares catalog place node declared where
  distinct := distinct
  nodes := by simp [← all, same.mem_iff]
  ascending := by
    have names : (declared.map (·.node.fieldName)).Nodup := by
      have siblings : (node.children.map (·.fieldName)).Nodup := JoinNode.EveryLevel.top distinct
      rw [← all, List.map_map] at siblings
      exact (same.map _).nodup_iff.mpr siblings
    refine (inOrder.and (List.pairwise_map.mp names)).imp_of_mem ?_
    rintro first second firstMember secondMember ⟨before, apart⟩
    refine Nat.lt_of_le_of_ne before fun positions => apart ?_
    exact (Schema.findRelation?_of_position (fits first (same.mem_iff.mp firstMember)).found
      (fits second (same.mem_iff.mp secondMember)).found positions).2
  fits placed member := fits placed (same.mem_iff.mp member)
  below placed member := below placed (same.mem_iff.mp member)

/-- The children go by one name at one place and are joined by the same keys. -/
structure PlacedChild.Alongside (child other : PlacedChild size) : Prop where
  fieldName : child.node.fieldName = other.node.fieldName
  link : child.link = other.link
  place : child.place = other.place
  keys : child.joined.keys = other.joined.keys

theorem PlacedChild.Alongside.symm {child other : PlacedChild size}
    (alongside : child.Alongside other)
    : other.Alongside child :=
  ⟨alongside.fieldName.symm, alongside.link.symm, alongside.place.symm, alongside.keys.symm⟩

/-- The name of a child decides where it is placed below its parent, and by which keys. -/
theorem PlacedChild.Fits.alongside {catalog : Catalog size} {parent : Place size}
    {child other : PlacedChild size} (fits : child.Fits catalog parent)
    (otherFits : other.Fits catalog parent) (name : child.node.fieldName = other.node.fieldName)
    : child.Alongside other := by
  have link : child.link = other.link := by
    have found := fits.found
    rw [name, otherFits.found] at found
    exact (Option.some.inj found).symm
  have schema : child.place.schema = other.place.schema := by
    have resolves := fits.resolves
    rw [link, otherFits.resolves] at resolves
    exact (Except.ok.inj resolves).symm
  have table : child.place.table = other.place.table := by
    have named := fits.table
    rw [schema, otherFits.table] at named
    exact (Option.some.inj named).symm
  have referencedKey
      : child.joined.keys.referencedKey = other.joined.keys.referencedKey := by
    have referenced := fits.referencedKey
    rw [schema, link, otherFits.referencedKey] at referenced
    exact (Option.some.inj referenced).symm
  refine ⟨name, link, ?place, ?keys⟩
  case place =>
    have path := fits.path
    have aliasName := fits.aliasName
    rw [name, ← otherFits.path] at path
    rw [link, ← otherFits.aliasName] at aliasName
    cases place : child.place
    cases otherPlace : other.place
    simp_all
  case keys =>
    have jsonKey := fits.jsonKey
    have foreignKey := fits.foreignKey
    rw [link, ← otherFits.jsonKey] at jsonKey
    rw [link, ← otherFits.foreignKey] at foreignKey
    cases keys : child.joined.keys
    cases otherKeys : other.joined.keys
    simp_all

namespace Declares

variable {catalog : Catalog size} {place : Place size} {left right : JoinNode}
variable {children others : List (PlacedChild size)}

theorem distinct_child (declares : Declares catalog place left children)
    {child : PlacedChild size} (member : child ∈ children)
    : child.node.DistinctSiblings :=
  JoinNode.EveryLevel.child declares.distinct ((declares.nodes _).mpr ⟨child, member, rfl⟩)

theorem provider?_child (declares : Declares catalog place left children)
    {child : PlacedChild size} (member : child ∈ children) (names : List String)
    : left.provider? (child.node.fieldName :: names) = child.node.provider? names :=
  JoinNode.provider?_child declares.distinct ((declares.nodes _).mpr ⟨child, member, rfl⟩) names

/-- Where the same providers are found below two nodes, a child with a provider somewhere below it
has a child of its name alongside.
-/
theorem alongside (declares : Declares catalog place left children)
    (otherDeclares : Declares catalog place right others)
    (same : ∀ names, left.provider? names = right.provider? names)
    {child : PlacedChild size} (member : child ∈ children) {names : List String}
    {provider : Provider} (provided : child.node.provider? names = some provider)
    : ∃ other ∈ others,
        child.Alongside other
        ∧ ∀ names, child.node.provider? names = other.node.provider? names := by
  have below := declares.provider?_child member
  obtain ⟨node, inside, name⟩ :=
    JoinNode.child_of_provider? ((same _).symm.trans ((below names).trans provided))
  obtain ⟨other, otherMember, rfl⟩ := (otherDeclares.nodes node).mp inside
  refine ⟨other, otherMember,
    (declares.fits child member).alongside (otherDeclares.fits other otherMember) name.symm, ?_⟩
  intro names
  rw [← below, ← otherDeclares.provider?_child otherMember, same, name]

end Declares

-----------------------------------------------------------------------------------------
-- Inquiries and providers
-----------------------------------------------------------------------------------------

/-- Whoever is asked is the provider of a node. By induction over what stands. -/
theorem Stands.exists_provider {catalog : Catalog size} {place : Place size} {node : JoinNode}
    {relation : Relation} (stands : Stands catalog place node relation)
    (distinct : node.DistinctSiblings) {condition : String} {inquiry : Inquiry}
    (asked : inquiry ∈ relation.inquiries condition)
    : ∃ names, node.provider? names = some inquiry.provider := by
  induction stands generalizing condition with
  | @intro place node children declared all same inOrder fits below ih =>
      have declares := declares_of_distinct all same inOrder fits below distinct
      rw [Relation.inquiries_of_children, List.mem_append] at asked
      rcases asked with own | behind
      · refine ⟨[], ?_⟩
        change node.spec.subquery = some inquiry.provider
        rw [TableUse.inquiries, Place.use] at own
        cases provided : node.spec.subquery with
        | none => simp [provided] at own
        | some provider =>
            rw [provided] at own
            rw [List.mem_singleton.mp own]
      · obtain ⟨kind, _, ofKind⟩ := List.mem_flatMap.mp behind
        obtain ⟨child, inside, asked⟩ := List.mem_flatMap.mp ofKind
        have member := (List.mem_filter.mp inside).1
        obtain ⟨condition, inquiries⟩ := child.joined.exists_inquiries_eq place.aliasName kind
        obtain ⟨names, provided⟩ := ih child (same.mem_iff.mp member)
          (declares.distinct_child member) (inquiries ▸ asked)
        exact ⟨child.node.fieldName :: names,
          (declares.provider?_child member names).trans provided⟩

namespace Declares

variable {catalog : Catalog size} {place : Place size} {left right : JoinNode}
variable {children others : List (PlacedChild size)}

/-- A child that is asked anything has a provider at or below it. -/
theorem exists_provider (declares : Declares catalog place left children)
    {child : PlacedChild size} (member : child ∈ children) {parent : String}
    {kind : RelationKind} (asked : child.joined.inquiries parent kind ≠ [])
    : ∃ names provider, child.node.provider? names = some provider := by
  obtain ⟨inquiry, inside⟩ := List.exists_mem_of_ne_nil _ asked
  obtain ⟨condition, inquiries⟩ := child.joined.exists_inquiries_eq parent kind
  obtain ⟨names, provided⟩ :=
    (declares.below child member).exists_provider (declares.distinct_child member)
      (inquiries ▸ inside)
  exact ⟨names, _, provided⟩

/-- The children of one kind make the same inquiries below two nodes with the same providers, if
children that are alongside each other do.
-/
theorem inquiries_eq (declares : Declares catalog place left children)
    (otherDeclares : Declares catalog place right others)
    (same : ∀ names, left.provider? names = right.provider? names)
    (alike
      : ∀ child ∈ children,
          ∀ other ∈ others,
            child.Alongside other
            → (∀ names, child.node.provider? names = other.node.provider? names)
            → ∀ condition,
                child.joined.relation.inquiries condition
                  = other.joined.relation.inquiries condition)
    (parent : String) (kind : RelationKind)
    : (children.filter (·.link.kind = kind)).flatMap (·.joined.inquiries parent kind)
        = (others.filter (·.link.kind = kind)).flatMap (·.joined.inquiries parent kind) := by
  -- Children alongside each other have one position, and they are asked under one name.
  have equal {child other : PlacedChild size} (member : child ∈ children)
      (otherMember : other ∈ others) (alongside : child.Alongside other)
      (providers : ∀ names, child.node.provider? names = other.node.provider? names)
      : child.joined.inquiries parent kind = other.joined.inquiries parent kind := by
    refine Joined.inquiries_congr alongside.keys ?_ ?_ parent kind
    · rw [(declares.below child member).use, (otherDeclares.below other otherMember).use, Place.use,
        Place.use, alongside.place]
    · exact alike child member other otherMember alongside providers
  refine flatMap_eq_of_ranked
    (fun child => place.schema.relationPosition child.node.fieldName)
    (declares.ascending.filter _) (otherDeclares.ascending.filter _) ?forth ?back
  case forth =>
    intro child inside asked
    obtain ⟨member, ofKind⟩ := List.mem_filter.mp inside
    obtain ⟨names, provider, provided⟩ := declares.exists_provider member asked
    obtain ⟨other, otherMember, alongside, providers⟩ :=
      declares.alongside otherDeclares same member provided
    refine ⟨other, List.mem_filter.mpr ⟨otherMember, alongside.link ▸ ofKind⟩, ?_, ?_⟩
    · rw [alongside.fieldName]
    · exact equal member otherMember alongside providers
  case back =>
    intro other inside asked
    obtain ⟨otherMember, ofKind⟩ := List.mem_filter.mp inside
    obtain ⟨names, provider, provided⟩ := otherDeclares.exists_provider otherMember asked
    obtain ⟨child, member, alongside, providers⟩ :=
      otherDeclares.alongside declares (fun names => (same names).symm) otherMember provided
    refine ⟨child, List.mem_filter.mpr ⟨member, alongside.link ▸ ofKind⟩, ?_, ?_⟩
    · rw [alongside.fieldName]
    · exact (equal member otherMember alongside.symm fun names => (providers names).symm).symm

end Declares

/-- Trees that stand at one place make the same inquiries if the same providers are found behind the
same names below both. By induction over what stands for the one: a child without another one
alongside has no providers, so nothing in it is asked.
-/
theorem Stands.inquiries_eq {catalog : Catalog size} {place : Place size}
    {left right : JoinNode} {relation other : Relation}
    (stands : Stands catalog place left relation)
    (otherStands : Stands catalog place right other) (distinct : left.DistinctSiblings)
    (otherDistinct : right.DistinctSiblings)
    (same : ∀ names, left.provider? names = right.provider? names) (condition : String)
    : relation.inquiries condition = other.inquiries condition := by
  induction stands generalizing right other condition with
  | @intro place left children declared all rearranged inOrder fits below ih =>
      cases otherStands with
      | intro others otherDeclared otherAll otherSame otherInOrder otherFits otherBelow =>
          have declares := declares_of_distinct all rearranged inOrder fits below distinct
          have otherDeclares := declares_of_distinct otherAll otherSame otherInOrder otherFits
            otherBelow otherDistinct
          have own : left.spec.subquery = right.spec.subquery := same []
          rw [Relation.inquiries_of_children, Relation.inquiries_of_children]
          congr 1
          · simp only [TableUse.inquiries, Place.use, own]
          · refine List.flatMap_congr fun kind _ => ?_
            refine declares.inquiries_eq otherDeclares same ?_ place.aliasName kind
            intro child member counterpart otherMember alongside providers condition
            exact ih child (rearranged.mem_iff.mp member)
              (alongside.place ▸ otherDeclares.below counterpart otherMember)
              (declares.distinct_child member) (otherDeclares.distinct_child otherMember) providers
              condition

end NestedSelect
