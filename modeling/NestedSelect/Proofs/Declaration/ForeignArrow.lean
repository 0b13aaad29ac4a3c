import NestedSelect.Proofs.Declaration.ExpandedBlock
import NestedSelect.Proofs.Relation.StandingNodes
import NestedSelect.Proofs.Statement.JoinLines
/-!
Arrows from declarations to statements. The arrow of a `foreign` attribute tells which of two tables
holds the foreign key. Wherever its member is joined, the statement equates that column of the one
table with the primary key of the other.
-/

namespace NestedSelect.Declaration

open Reader

-----------------------------------------------------------------------------------------
-- Declared relations
-----------------------------------------------------------------------------------------

section

variable {size : Nat} {find : Path → Option (Fin size)}

/-- Calls that are carried out one after another are carried out each. -/
theorem performed_of_foldlM {calls : List Call} {before after : Schema size}
    (success : calls.foldlM (Call.perform find) before = some after) {call : Call}
    (member : call ∈ calls)
    : ∃ schema changed, call.perform find schema = some changed := by
  induction calls generalizing before with
  | nil => cases member
  | cons first rest ih =>
      rw [List.foldlM_cons] at success
      obtain ⟨middle, performed, behind⟩ := Option.bind_eq_some_iff.mp success
      rcases List.mem_cons.mp member with rfl | later
      · exact ⟨before, middle, performed⟩
      · exact ih behind later

/-- A member whose call is carried out leads to a schema that is found. -/
theorem MemberSyntax.Describes.isFound {written : MemberSyntax} {call : Call}
    (describes : written.Describes call) {schema changed : Schema size}
    (performed : call.perform find schema = some changed)
    : written.IsFound find := by
  intro path target
  unfold MemberSyntax.target? at target
  cases describes with
  | column plain =>
      simp [foreignKey?_of_not_isMarked plain.1, plain.2] at target
  | @foreign key described joined =>
      rw [described] at target
      cases target
      obtain ⟨index, found, -⟩ := Option.map_eq_some_iff.mp performed
      exact ⟨index, found⟩
  | @embed row own taken returned =>
      simp only [foreignKey?_of_not_isMarked own, taken, if_true, returned] at target
      cases target
      obtain ⟨index, found, -⟩ := Option.map_eq_some_iff.mp performed
      exact ⟨index, found⟩

/-- A block that makes a schema has no faulty members, and its relations are those of the schema. -/
theorem Block.links_of_schema? {found : Block} {table : Option String} {schema : Schema size}
    (success : Expansion.schema? find ⟨found.type, found.calls table⟩ = some schema)
    : (∀ written ∈ found.members, ¬ written.IsFaulty)
      ∧ List.Forall₂ (MemberSyntax.Links find) (found.members.filter (¬ ·.IsColumn))
          schema.relations := by
  have inStep := forall₂_entry found.members
  have performed {call : Call} (member : call ∈ found.calls table)
      : ∃ before changed, call.perform find before = some changed :=
    performed_of_foldlM success member
  have right (diagnostic : Diagnostic) : .fault diagnostic ∉ found.calls table := by
    intro member
    obtain ⟨before, changed, impossible⟩ := performed member
    cases impossible
  have each {written : MemberSyntax} (member : written ∈ found.members)
      : ¬ written.IsFaulty ∧ written.IsFound find := by
    obtain ⟨call, there, entry⟩ := partner_of_mem_left inStep member
    have called : call ∈ found.calls table := List.mem_append_right _ there
    cases entry with
    | @faulty diagnostic wrong => exact absurd called (right diagnostic)
    | accepted accepted describes =>
        obtain ⟨before, changed, done⟩ := performed called
        exact ⟨accepted, describes.isFound done⟩
  obtain ⟨key, links, -, linked, made⟩ :=
    found.schema?_of_faultless table right fun written member => (each member).2
  have same : schema = _ := Option.some.inj (success.symm.trans made)
  refine ⟨fun written member => (each member).1, ?_⟩
  rw [same]
  exact linked

end

/-- An accepted member has the foreign key that its arrow describes. -/
theorem MemberSyntax.foreignKey?_of_arrow {written : MemberSyntax} {given : Attribute}
    {drawn : Arrow} (accepted : ¬ written.IsFaulty)
    (last : lastNamed "foreign" written.attributes = some given)
    (reads : readAll (group .parenthesis arrow) given.tokens = .ok drawn)
    : ∃ key, written.foreignKey? = some key ∧ drawn.foreignKey = .ok key := by
  obtain ⟨member, right⟩ := not_isFaulty_iff.mp accepted
  obtain ⟨fits, -⟩ := (Member.ofSyntax_eq_ok_iff written member).mp right
  obtain ⟨inside, named⟩ := mem_of_lastNamed last
  have fit := fits given inside
  unfold Attribute.IsFit at fit
  rw [named] at fit
  obtain ⟨key, described⟩ := fit
  obtain ⟨found, same, makes⟩ :=
    (Declaration.foreignKey_eq_ok_iff _ _).mp ((given.foreignKey_eq_ok_iff key).mpr described)
  obtain rfl : drawn = found := Except.ok.inj (reads.symm.trans same)
  exact ⟨key, by rw [foreignKey?, last, Option.bind_some, described], makes⟩

/-- The relation of a member with a foreign key goes by that key. -/
theorem MemberSyntax.Links.kind_and_column {size : Nat} {find : Path → Option (Fin size)}
    {written : MemberSyntax} {link : RelationLink size} (links : written.Links find link)
    {key : ForeignKey} (described : written.foreignKey? = some key)
    : link.kind = (if key.referencesSelf then .many else .one)
      ∧ link.foreignKey = key.column := by
  cases links with
  | foreign same joined target =>
      obtain rfl := Option.some.inj (described.symm.trans same)
      exact ⟨rfl, rfl⟩
  | embed own taken row target => exact absurd (isMarked_of_foreignKey? described) own

-----------------------------------------------------------------------------------------
-- Arrows in statements
-----------------------------------------------------------------------------------------

/-- The statement of a relation tree respects an arrow between a parent and one of its children. On
one side is the parent and on the other side the child, and the join equates the column on the side
that references with the primary key that the other side's schema is resolved to have.
-/
inductive Respects {size : Nat} (relation : Relation) (foreignKey : String)
    (parent : Place size) (child : PlacedChild size) : SideTable → SideTable → Prop
  /-- The parent references the child: one row, neither selected by a condition nor grouped. -/
  | parentReferences {other : Path} {key : String}
    (resolved : child.place.schema.primaryKey = some key)
    (joined
      : ∀ sequenceColumn, ∃ within,
          child.joined.relation.joinOfOne sequenceColumn within
              ⟨child.place.aliasName, key⟩ ⟨parent.aliasName, foreignKey⟩
            <:+: relation.lines sequenceColumn [] none)
    : Respects relation foreignKey parent child .self (.other other)
  /-- The child references the parent: all rows that agree with it, grouped by the column. -/
  | childReferences {other : Path} {key : String}
    (resolved : parent.schema.primaryKey = some key)
    (joined
      : ∀ sequenceColumn, ∃ within,
          child.joined.relation.joinOfMany sequenceColumn within
              ⟨child.place.aliasName, foreignKey⟩ ⟨parent.aliasName, key⟩
            <:+: relation.lines sequenceColumn [] none)
    : Respects relation foreignKey parent child (.other other) .self

/-- A child that is joined through a link has the lines for the link's kind and foreign key. -/
theorem respects_of_joins {size : Nat} {catalog : Catalog size} {relation parent : Relation}
    {image : Address} {place : Place size} {node named : JoinNode} {child : PlacedChild size}
    (there : relation.at? image = some parent) (stands : Stands catalog place node parent)
    (joins : child.Joins catalog place named parent) {key : ForeignKey} {first second : SideTable}
    (makes : (⟨⟨first, [key.column]⟩, ⟨second, []⟩⟩ : Arrow).foreignKey = .ok key)
    (foreignKey : child.link.foreignKey = key.column)
    (kind : child.link.kind = if key.referencesSelf then .many else .one)
    : Respects relation key.column place child first second := by
  have parentAlias : parent.use.aliasName = place.aliasName := by
    rw [stands.use]
    rfl
  have childAlias : child.joined.relation.use.aliasName = child.place.aliasName := by
    rw [joins.stands.use]
    rfl
  have references := joins.fits.referencedKey
  have lines (sequenceColumn : String) :=
    Relation.linesOfJoin_infix_lines sequenceColumn there joins.joined
  have sides := (Arrow.foreignKey_eq_ok_iff _ _).mp makes
  cases direction : key.referencesSelf with
  | false =>
      simp only [direction, Bool.false_eq_true, if_false] at sides kind
      cases sides
      rw [kind] at references
      refine .parentReferences references fun sequenceColumn => ?_
      obtain ⟨within, inside⟩ := lines sequenceColumn
      rw [kind, Relation.linesOfJoin, childAlias, parentAlias, joins.fits.foreignKey,
        foreignKey] at inside
      exact ⟨within, inside⟩
  | true =>
      simp only [direction, if_true] at sides kind
      cases sides
      rw [kind] at references
      refine .childReferences references fun sequenceColumn => ?_
      obtain ⟨within, inside⟩ := lines sequenceColumn
      rw [kind, Relation.linesOfJoin, childAlias, parentAlias, joins.fits.foreignKey,
        foreignKey] at inside
      exact ⟨within, inside⟩

/-- The arrow of a `foreign` attribute decides how its member is joined. If a declaration makes a
schema of the catalog, each of its members with an arrow is a relation of the schema. Wherever a
build joins a child through that relation, there are lines in the statement that respect the arrow:
the parent is where the arrow has `Self`.
-/
theorem arrow_decides_join {argument text : String} {content : List Token} {found : Block}
    {expansion : Expansion} (textTokens : tokens text = some content)
    (read : readAll block content = .ok found)
    (expanded : expand argument text = .ok expansion) {size : Nat}
    {find : Path → Option (Fin size)} {catalog : Catalog size} {declared : Fin size}
    (makes : expansion.schema? find = some (catalog declared)) {written : MemberSyntax}
    (member : written ∈ found.members) {given : Attribute}
    (last : lastNamed "foreign" written.attributes = some given) {first second : SideTable}
    {foreignKey : String}
    (reads
      : readAll (group .parenthesis arrow) given.tokens
          = .ok ⟨⟨first, [foreignKey]⟩, ⟨second, []⟩⟩)
    : ∃ link ∈ (catalog declared).relations,
        written.Links find link
        ∧ ∀ (root : Fin size) (tree : JoinNode) (relation : Relation),
            (Relation.build catalog root tree).outcome = .ok relation
            → (∀ options rendered,
                relation.render options = .ok rendered
                → ∃ texts,
                    rendered.sql
                      = Line.write options.layout
                          (relation.lines options.sequenceColumn [] none) texts)
              ∧ ∀ (top reached : Schema size) (address : Address) (node named : JoinNode)
                  (index : Nat),
                  (catalog root).resolve catalog = .ok top
                  → tree.at? address = some node
                  → catalog.follow top (tree.trail address) = some reached
                  → node.children[index]? = some named
                  → reached.findRelation? named.fieldName = some link
                  → ∃ (place : Place size) (parent : Relation) (image : Address)
                      (child : PlacedChild size),
                      relation.at? image = some parent
                      ∧ Stands catalog place node parent ∧ place.schema = reached
                      ∧ child.Joins catalog place named parent ∧ child.link = link
                      ∧ Respects relation foreignKey place child first second := by
  obtain ⟨_, _, table, _, -, sameTokens, -, sameBlock, rfl⟩ := (expand_eq_ok_iff _ _ _).mp expanded
  obtain rfl := Option.some.inj (sameTokens.symm.trans textTokens)
  obtain rfl := Except.ok.inj (sameBlock.symm.trans read)
  obtain ⟨right, linked⟩ := Block.links_of_schema? makes
  have marked : written.IsMarked "foreign" := ⟨given, mem_of_lastNamed last⟩
  obtain ⟨link, inside, links⟩ :=
    partner_of_mem_left linked
      (List.mem_filter.mpr ⟨member, by simp [MemberSyntax.IsColumn, marked]⟩)
  obtain ⟨key, described, keyed⟩ :=
    MemberSyntax.foreignKey?_of_arrow (right written member) last reads
  obtain ⟨kind, column⟩ := links.kind_and_column described
  obtain rfl : foreignKey = key.column :=
    List.head_eq_of_cons_eq (Arrow.columns_of_foreignKey keyed)
  refine ⟨link, inside, links, fun root tree relation built => ⟨?_, ?_⟩⟩
  · intro options rendered success
    exact Relation.render_eq_lines success
  · intro top reached address node named index resolves there follows child found
    obtain ⟨schema, tableName, resolvesToo, -, stands⟩ := Relation.stands_of_build built
    obtain rfl : top = schema := Except.ok.inj (resolves.symm.trans resolvesToo)
    obtain ⟨place, parent, image, standsThere, inTree, followsToo⟩ := stands.descend there
    obtain rfl : reached = place.schema := Option.some.inj (follows.symm.trans followsToo)
    obtain ⟨placed, joins⟩ := standsThere.child child
    have same : placed.link = link := by
      have linkedToo := joins.fits.found
      rw [joins.node, found] at linkedToo
      exact (Option.some.inj linkedToo).symm
    refine ⟨place, parent, image, placed, inTree, standsThere, rfl, joins, same, ?_⟩
    exact respects_of_joins inTree standsThere joins keyed (same ▸ column) (same ▸ kind)

/-- A declaration of a table that references itself. -/
def staffBlock : String :=
  "impl Staff { #[primary_key] fn id() -> Id; #[foreign(Staff(boss) => Self)] fn team() -> [Staff]; }"

/-- The catalog of that table alone. -/
def staffCatalog : Catalog 1 := fun own => {
  name := "Staff"
  tableName := some "staff"
  primaryKey := some "id"
  fields := [⟨"id", "id"⟩]
  relations := [.many "team" "boss" own]
}

/-- The team of each row, and in turn the team of each of these. -/
def teamsOfTeams : JoinNode :=
  ⟨"", {}, true, [⟨"team", {}, true, [⟨"team", {}, true, []⟩]⟩]⟩

theorem arrow_decides_join_of_staff
    : ∃ (content : List Token) (found : Block) (expansion : Expansion) (written : MemberSyntax)
        (given : Attribute) (other : Path) (relation : Relation) (link : RelationLink 1)
        (place : Place 1) (child : PlacedChild 1),
        tokens staffBlock = some content
        ∧ readAll block content = .ok found
        ∧ expand "\"staff\"" staffBlock = .ok expansion
        ∧ expansion.schema? (fun _ => some 0) = some (staffCatalog 0)
        ∧ written ∈ found.members
        ∧ lastNamed "foreign" written.attributes = some given
        ∧ readAll (group .parenthesis arrow) given.tokens
          = .ok ⟨⟨.other other, ["boss"]⟩, ⟨.self, []⟩⟩
        ∧ (Relation.build staffCatalog 0 teamsOfTeams).outcome = .ok relation
        ∧ written.Links (fun _ => some 0) link
        ∧ child.link = link
        ∧ Respects relation "boss" place child (.other other) .self := by
  have told
      : ((readAll block ((tokens staffBlock).getD [])).toOption.bind (·.members[1]?)).bind
            (fun written => (lastNamed "foreign" written.attributes).bind fun given =>
              (readAll (group .parenthesis arrow) given.tokens).toOption)
          = some
              ⟨⟨.other ⟨"Staff", [⟨.word, "Staff", ⟨1, 53⟩⟩], ⟨1, 53⟩⟩, ["boss"]⟩,
                ⟨.self, []⟩⟩ := by
    decide +kernel
  have performed
      : (expand "\"staff\"" staffBlock).toOption.bind (·.schema? fun _ => some 0)
          = some (staffCatalog 0) := by
    decide +kernel
  have lexes : (tokens staffBlock).isSome = true := by decide +kernel
  obtain ⟨content, textTokens⟩ := Option.isSome_iff_exists.mp lexes
  rw [textTokens, Option.getD_some] at told
  simp only [Option.bind_eq_some_iff] at told performed
  obtain ⟨written, ⟨found, parsed, second⟩, given, last, drawn⟩ := told
  obtain ⟨expansion, expanded, makes⟩ := performed
  have read := eq_ok_of_toOption parsed
  have member := List.mem_of_getElem? second
  obtain ⟨link, inside, links, joined⟩ :=
    arrow_decides_join textTokens read (eq_ok_of_toOption expanded) makes member last
      (eq_ok_of_toOption drawn)
  obtain rfl : link = .many "team" "boss" 0 := List.mem_singleton.mp inside
  have built : ∃ relation, (Relation.build staffCatalog 0 teamsOfTeams).outcome = .ok relation :=
    ⟨_, rfl⟩
  obtain ⟨relation, success⟩ := built
  obtain ⟨place, parent, image, child, -, -, -, -, same, respects⟩ :=
    (joined 0 teamsOfTeams relation success).2 (staffCatalog 0) (staffCatalog 0) [0] _ _ 0 rfl rfl
      rfl rfl rfl
  exact ⟨content, found, expansion, written, given, _, relation, _, place, child, textTokens, read,
    eq_ok_of_toOption expanded, makes, member, last, eq_ok_of_toOption drawn, success, links,
    same, respects⟩

end NestedSelect.Declaration
