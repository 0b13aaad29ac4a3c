import NestedSelect.Proofs.Declaration.BlindMembers
import NestedSelect.Proofs.Declaration.MemberFaults
/-!
The order of attributes. What a member means is told by the last attribute of each name alone, so
attributes of different names may change places, and documentation may stand anywhere. As whatever
changes its place has another position, attributes are compared without their positions.
-/

namespace NestedSelect.Declaration

open Reader

-----------------------------------------------------------------------------------------
-- Rearranged attributes
-----------------------------------------------------------------------------------------

/-- An attribute that does not document the member. -/
def Attribute.isOwn (given : Attribute) : Bool := given.name ≠ some "doc"

/-- The attributes of the first list stand in the second list in any order in which those of one
name keep theirs. Documentation may stand anywhere in either.
-/
structure Reordered (first second : List Attribute) : Prop where
  perm : ((unplaced first).filter (·.isOwn)).Perm ((unplaced second).filter (·.isOwn))
  ofName
    : ∀ name, name ≠ "doc"
      → (unplaced first).filter (·.name = some name)
        = (unplaced second).filter (·.name = some name)

/-- The last attribute of each name is the same in both lists, apart from documentation. -/
def SameLast (first second : List Attribute) : Prop :=
  ∀ name, name ≠ "doc" → lastNamed name (unplaced first) = lastNamed name (unplaced second)

/-- The last attributes say the same together where they are the same. -/
theorem SameLast.last_eq {first second : List Attribute} (same : SameLast first second)
    : Markings.last (unplaced first) = Markings.last (unplaced second) := by
  unfold Markings.last
  simp only [same _ (by decide : "primary_key" ≠ "doc"), same _ (by decide : "column" ≠ "doc"),
    same _ (by decide : "json" ≠ "doc"), same _ (by decide : "foreign" ≠ "doc"),
    same _ (by decide : "embed" ≠ "doc")]

/-- Whatever documents a member is as it has to be. -/
theorem Attribute.isAllowed_of_not_isOwn {given : Attribute} (document : given.isOwn = false)
    : given.IsAllowed :=
  .doc (by simpa [isOwn] using document)

/-- Whether an attribute is as it has to be does not depend on where it stands. -/
theorem Attribute.isAllowed_unplaced (given : Attribute)
    : (unplaced given).IsAllowed ↔ given.IsAllowed := by
  rw [isAllowed_iff, isAllowed_iff]
  -- An attribute is fit exactly if it can be taken into account as the first one of all.
  have moved : (Markings.last []).add (unplaced given)
      = unplaced ((Markings.last []).add given) :=
    Markings.add_unplaced (Markings.last []) given
  constructor
  · intro fit
    rw [Markings.add_last_of_fit fit] at moved
    cases taken : (Markings.last []).add given with
    | error diagnostic =>
        rw [taken] at moved
        cases moved
    | ok markings => exact Markings.fit_of_add taken
  · intro fit
    rw [Markings.add_last_of_fit fit] at moved
    exact Markings.fit_of_add moved

namespace Reordered

variable {first second : List Attribute}

theorem symm (reordered : Reordered first second) : Reordered second first :=
  ⟨reordered.perm.symm, fun name own => (reordered.ofName name own).symm⟩

theorem sameLast (reordered : Reordered first second) : SameLast first second :=
  fun name own => congrArg List.getLast? (reordered.ofName name own)

/-- An attribute that is not in the first list documents the member, and is as it has to be. -/
theorem allowed (reordered : Reordered first second)
    (each : ∀ given ∈ first, given.IsAllowed)
    : ∀ given ∈ second, given.IsAllowed := by
  intro given member
  cases own : given.isOwn with
  | false => exact Attribute.isAllowed_of_not_isOwn own
  | true =>
      have inSecond : unplaced given ∈ (unplaced second).filter (·.isOwn) :=
        List.mem_filter.mpr ⟨List.mem_map_of_mem member, own⟩
      have inFirst := (List.mem_filter.mp (reordered.perm.mem_iff.mpr inSecond)).1
      obtain ⟨counterpart, among, same⟩ := List.mem_map.mp inFirst
      rw [← Attribute.isAllowed_unplaced, ← same, Attribute.isAllowed_unplaced]
      exact each counterpart among

end Reordered

-----------------------------------------------------------------------------------------
-- Members with the same meaning
-----------------------------------------------------------------------------------------

namespace MemberSyntax

/-- The members differ in their attributes at most, and in where their parts stand. -/
structure SameSignature (written other : MemberSyntax) : Prop where
  name : written.name = other.name
  arguments : written.firstArgument.isSome = other.firstArgument.isSome
  returns : unplaced written.returns = unplaced other.returns

/-- Both members are accepted or none of them is. Accepted ones have the same call but for where
its target stands, and both or none of them are primary keys, of the same column.
-/
structure SameMeaning (written other : MemberSyntax) : Prop where
  accepted
    : (∃ member, Member.ofSyntax written = .ok member)
      ↔ ∃ member, Member.ofSyntax other = .ok member
  call
    : ∀ {member counterpart},
        Member.ofSyntax written = .ok member
        → Member.ofSyntax other = .ok counterpart
        → unplaced member.call = unplaced counterpart.call
  key
    : ∀ {member counterpart},
        Member.ofSyntax written = .ok member
        → Member.ofSyntax other = .ok counterpart
        → member.primaryKey? = counterpart.primaryKey?

variable {written other : MemberSyntax}

/-- Members mean the same if nothing but positions tells apart what becomes of them. -/
theorem sameMeaning_of_unplaced
    (same : unplaced (Member.ofSyntax written) = unplaced (Member.ofSyntax other))
    : written.SameMeaning other := by
  have accepted {written other : MemberSyntax}
      (same : unplaced (Member.ofSyntax written) = unplaced (Member.ofSyntax other))
      : (∃ member, Member.ofSyntax written = .ok member)
        → ∃ counterpart, Member.ofSyntax other = .ok counterpart := by
    rintro ⟨member, accepted⟩
    rw [accepted] at same
    cases outcome : Member.ofSyntax other with
    | error diagnostic =>
        rw [outcome] at same
        cases same
    | ok counterpart => exact ⟨counterpart, rfl⟩
  have counterparts {member counterpart : Member} (accepted : Member.ofSyntax written = .ok member)
      (acceptedToo : Member.ofSyntax other = .ok counterpart)
      : unplaced member = unplaced counterpart := by
    rw [accepted, acceptedToo] at same
    exact Except.ok.inj same
  refine ⟨⟨accepted same, accepted same.symm⟩, ?call, ?key⟩
  case call =>
    intro member counterpart accepted acceptedToo
    rw [← Blind.apply Member.call, counterparts accepted acceptedToo, Blind.apply Member.call]
  case key =>
    intro member counterpart accepted acceptedToo
    rw [← Blind.same Member.primaryKey? member, counterparts accepted acceptedToo,
      Blind.same Member.primaryKey? counterpart]

/-- What becomes of a member depends on what its attributes say together, not on each of them. -/
theorem ofSyntax_congr
    (markings : Markings.ofAttributes written.attributes = Markings.ofAttributes other.attributes)
    (start : written.start = other.start) (name : written.name = other.name)
    (argument : written.firstArgument = other.firstArgument)
    (returns : written.returns = other.returns)
    : Member.ofSyntax written = Member.ofSyntax other := by
  simp only [Member.ofSyntax, markings, start, name, argument, returns]

/-- Members whose attributes are as they have to be mean the same if the last attributes of each
name are the same.
-/
theorem sameMeaning_of_sameLast (same : written.SameSignature other)
    (allowed : ∀ given ∈ written.attributes, given.IsAllowed)
    (allowedToo : ∀ given ∈ other.attributes, given.IsAllowed)
    (sameLast : SameLast written.attributes other.attributes)
    : written.SameMeaning other := by
  have taken {attributes : List Attribute} (each : ∀ given ∈ attributes, given.IsAllowed)
      : Markings.ofAttributes (unplaced attributes) = .ok (.last (unplaced attributes)) := by
    refine (Markings.ofAttributes_eq_ok_iff _ _).mpr ⟨?_, rfl⟩
    intro given member
    obtain ⟨original, inside, rfl⟩ := List.mem_map.mp member
    exact (Attribute.isAllowed_iff _).mp (original.isAllowed_unplaced.mpr (each original inside))
  have argument : unplaced written.firstArgument = unplaced other.firstArgument := by
    have arguments := same.arguments
    match written.firstArgument, other.firstArgument, arguments with
    | none, none, _ | some _, some _, _ => rfl
  refine sameMeaning_of_unplaced ?_
  calc unplaced (Member.ofSyntax written)
      = Member.ofSyntax (unplaced written) := (Blind.apply Member.ofSyntax written).symm
    _ = Member.ofSyntax (unplaced other) :=
        ofSyntax_congr ((taken allowed).trans (sameLast.last_eq ▸ (taken allowedToo).symm)) rfl
          same.name argument same.returns
    _ = unplaced (Member.ofSyntax other) := Blind.apply Member.ofSyntax other

/-- An accepted member has attributes that are as they have to be. -/
theorem allowed_of_ofSyntax {member : Member} (accepted : Member.ofSyntax written = .ok member)
    : ∀ given ∈ written.attributes, given.IsAllowed := by
  intro given inside
  have fits := ((Member.ofSyntax_eq_ok_iff written member).mp accepted).1
  exact (Attribute.isAllowed_iff given).mpr (fits given inside)

theorem sameMeaning_of_reordered (same : written.SameSignature other)
    (reordered : Reordered written.attributes other.attributes)
    : written.SameMeaning other := by
  by_cases allowed : ∀ given ∈ written.attributes, given.IsAllowed
  · exact sameMeaning_of_sameLast same allowed (reordered.allowed allowed) reordered.sameLast
  · -- Neither of the members is accepted.
    have rejected (member : Member) : Member.ofSyntax written ≠ .ok member :=
      fun accepted => allowed (allowed_of_ofSyntax accepted)
    have rejectedToo (member : Member) : Member.ofSyntax other ≠ .ok member :=
      fun accepted => allowed (reordered.symm.allowed (allowed_of_ofSyntax accepted))
    exact {
      accepted :=
        ⟨fun ⟨member, accepted⟩ => absurd accepted (rejected member),
          fun ⟨member, accepted⟩ => absurd accepted (rejectedToo member)⟩
      call := fun accepted _ => absurd accepted (rejected _)
      key := fun accepted _ => absurd accepted (rejected _)
    }

end MemberSyntax

/-- The order of the attributes of a member is irrelevant, as long as those of one name keep theirs,
and so are documentation and where everything stands. Of several attributes of one name the last one
decides: where all are as they have to be, those before the last one have no influence at all.
-/
theorem attribute_order_irrelevant {written other : MemberSyntax}
    (same : written.SameSignature other)
    : (Reordered written.attributes other.attributes → written.SameMeaning other)
      ∧ ((∀ given ∈ written.attributes, given.IsAllowed)
        → (∀ given ∈ other.attributes, given.IsAllowed)
        → SameLast written.attributes other.attributes
        → written.SameMeaning other) :=
  ⟨MemberSyntax.sameMeaning_of_reordered same, MemberSyntax.sameMeaning_of_sameLast same⟩

/-- The first one of the members that stand in a block. -/
def firstMember (text : String) : Option MemberSyntax :=
  ((tokens text).bind fun content => (readAll block content).toOption).bind (·.members.head?)

/-- A relation with a JSON key in front of its foreign key. -/
def keyedRelation : String :=
  "impl Post \x7b #[json = \"w\"] #[foreign(Self(id) => b::User)] fn writer() -> User; \x7d"

/-- The JSON key may as well stand behind the foreign key, and the relation may be documented. -/
def documentedRelation : String :=
  "impl Post \x7b
    /// d
    #[foreign(Self(id) => b::User)] #[json = \"w\"] fn writer() -> User; \x7d"

/-- A column that is renamed twice, with a JSON key between the two names. -/
def renamedTwice : String :=
  "impl Post \x7b #[column = \"a\"] #[json = \"k\"] #[column = \"b\"] fn c() -> Id; \x7d"

/-- The first of the two names may as well be missing. -/
def renamedOnce : String :=
  "impl Post \x7b #[column = \"b\"] #[json = \"k\"] fn c() -> Id; \x7d"

/-- An attribute with a text, wherever it stands. -/
def textAttribute (name text spelling : String) : Attribute :=
  ⟨some name, .start, [.synthetic (.mark '=' false) "=", .synthetic (.text text) spelling]⟩

/-- An attribute with a foreign key, wherever it stands. -/
def foreignAttribute : Attribute :=
  ⟨some "foreign", .start,
    [.synthetic (.opening .parenthesis) "(", .synthetic .word "Self",
      .synthetic (.opening .parenthesis) "(", .synthetic .word "id",
      .synthetic (.closing .parenthesis) ")", .synthetic (.mark '=' true) "=",
      .synthetic (.mark '>' false) ">", .synthetic .word "b", .synthetic (.mark ':' true) ":",
      .synthetic (.mark ':' false) ":", .synthetic .word "User",
      .synthetic (.closing .parenthesis) ")"]⟩

/-- A member with some attributes, wherever it stands. -/
def plainMember (name returns : String) (attributes : List Attribute) : MemberSyntax :=
  ⟨.start, attributes, name, none, none,
    some (.named ⟨returns, [.synthetic .word returns], .start⟩ false)⟩

theorem sameSignature_of_plain {written other : MemberSyntax} {name returns : String}
    {attributes others : List Attribute}
    (first : unplaced written = plainMember name returns attributes)
    (second : unplaced other = plainMember name returns others)
    : written.SameSignature other := by
  have argument {written : MemberSyntax} {attributes : List Attribute}
      (plain : unplaced written = plainMember name returns attributes)
      : written.firstArgument = none :=
    Option.map_eq_none_iff.mp (congrArg MemberSyntax.firstArgument plain)
  exact {
    name := (congrArg MemberSyntax.name first).trans (congrArg MemberSyntax.name second).symm
    arguments := by rw [argument first, argument second]
    returns :=
      (congrArg MemberSyntax.returns first).trans (congrArg MemberSyntax.returns second).symm
  }

theorem attribute_order_irrelevant_of_renamed
    : ∃ keyed documented twice once,
        firstMember keyedRelation = some keyed
        ∧ firstMember documentedRelation = some documented
        ∧ keyed.SameSignature documented
        ∧ Reordered keyed.attributes documented.attributes
        ∧ keyed.SameMeaning documented
        ∧ (∃ target,
            unplaced (memberCall (Member.ofSyntax keyed))
              = .relation .one "writer" "id" target (some "w"))
        ∧ firstMember renamedTwice = some twice
        ∧ firstMember renamedOnce = some once
        ∧ SameLast twice.attributes once.attributes
        ∧ twice.SameMeaning once
        ∧ memberCall (Member.ofSyntax twice) = .field "b" "k" := by
  have toldKeyed
      : (firstMember keyedRelation).map
            (fun written => (unplaced written, unplaced (memberCall (Member.ofSyntax written))))
          = some
              (plainMember "writer" "User" [textAttribute "json" "w" "\"w\"", foreignAttribute],
                .relation .one "writer" "id"
                  ⟨"User", (foreignAttribute.tokens.drop 7).dropLast, .start⟩ (some "w")) := by
    decide +kernel
  have toldDocumented
      : (firstMember documentedRelation).map unplaced
          = some
              (plainMember "writer" "User"
                [textAttribute "doc" " d" "\" d\"", foreignAttribute,
                  textAttribute "json" "w" "\"w\""]) := by
    decide +kernel
  have toldTwice
      : (firstMember renamedTwice).map
            (fun written => (unplaced written, memberCall (Member.ofSyntax written)))
          = some
              (plainMember "c" "Id"
                [textAttribute "column" "a" "\"a\"", textAttribute "json" "k" "\"k\"",
                  textAttribute "column" "b" "\"b\""],
                .field "b" "k") := by
    decide +kernel
  have toldOnce
      : (firstMember renamedOnce).map unplaced
          = some
              (plainMember "c" "Id"
                [textAttribute "column" "b" "\"b\"", textAttribute "json" "k" "\"k\""]) := by
    decide +kernel
  simp only [Option.map_eq_some_iff, Prod.mk.injEq] at toldKeyed toldDocumented toldTwice toldOnce
  obtain ⟨keyed, readKeyed, plainKeyed, callKeyed⟩ := toldKeyed
  obtain ⟨documented, readDocumented, plainDocumented⟩ := toldDocumented
  obtain ⟨twice, readTwice, plainTwice, callTwice⟩ := toldTwice
  obtain ⟨once, readOnce, plainOnce⟩ := toldOnce
  have attributes {written : MemberSyntax} {name returns : String} {attributes : List Attribute}
      (plain : unplaced written = plainMember name returns attributes)
      : unplaced written.attributes = attributes :=
    congrArg MemberSyntax.attributes plain
  have reordered : Reordered keyed.attributes documented.attributes := by
    constructor <;> rw [attributes plainKeyed, attributes plainDocumented]
    · decide
    · intro name own
      simp only [textAttribute, foreignAttribute, List.filter_cons, List.filter_nil]
      by_cases json : "json" = name
      · subst json
        rfl
      · by_cases foreign : "foreign" = name
        · subst foreign
          rfl
        · simp [json, foreign, Ne.symm own]
  have sameLast : SameLast twice.attributes once.attributes := by
    intro name own
    rw [attributes plainTwice, attributes plainOnce]
    simp only [lastNamed, textAttribute, List.filter_cons, List.filter_nil]
    by_cases column : "column" = name
    · subst column
      rfl
    · by_cases json : "json" = name
      · subst json
        rfl
      · simp [column, json]
  have allowed {written : MemberSyntax} {given : List Attribute}
      (plain : unplaced written = plainMember "c" "Id" given)
      (texts : given.all fun one =>
        (one.name = some "column" ∨ one.name = some "json") ∧ one.text?.isSome)
      : ∀ one ∈ written.attributes, one.IsAllowed := by
    intro one inside
    have among : unplaced one ∈ given := attributes plain ▸ List.mem_map_of_mem inside
    obtain ⟨named, told⟩ := of_decide_eq_true (List.all_eq_true.mp texts _ among)
    obtain ⟨found, told⟩ := Option.isSome_iff_exists.mp told
    exact one.isAllowed_unplaced.mp (.text named told)
  have same := sameSignature_of_plain plainKeyed plainDocumented
  exact ⟨keyed, documented, twice, once, readKeyed, readDocumented, same, reordered,
    (attribute_order_irrelevant same).1 reordered, ⟨_, callKeyed⟩, readTwice, readOnce, sameLast,
    (attribute_order_irrelevant (sameSignature_of_plain plainTwice plainOnce)).2
      (allowed plainTwice (by decide)) (allowed plainOnce (by decide)) sameLast, callTwice⟩

end NestedSelect.Declaration
