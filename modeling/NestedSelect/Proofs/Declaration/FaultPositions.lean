import NestedSelect.Proofs.Declaration.BlockLayout
import NestedSelect.Proofs.Declaration.MemberFaults
/-!
Positions of faults. What is wrong with a member is reported at one of the member's own tokens, with
one exception: where the argument of an attribute ends before all that it needs has come, no token
is left to point at, and the fault is placed at the start of the whole text.
-/

namespace NestedSelect.Declaration

open Reader

-----------------------------------------------------------------------------------------
-- Arguments
-----------------------------------------------------------------------------------------

/-- A text that an attribute needs does not come: there is an equals sign at most. -/
def TextEndsEarly (argument : List Token) : Prop :=
  argument = [] ∨ ∃ sign, argument = [sign] ∧ sign.isMark '=' = true

/-- A fault is placed at one of some tokens, or at the start of the text if these end early. -/
def PlacedUnless (early : Prop) (tokens : List Token) (position : Position) : Prop :=
  early ∧ position = .start ∨ ¬ early ∧ Holds tokens position

theorem Holds.within {inner own : List Token} {position : Position} (held : Holds inner position)
    (inside : inner <:+: own)
    : Holds own position := by
  obtain ⟨token, member, placed⟩ := held
  exact ⟨token, inside.mem member, placed⟩

theorem PlacedUnless.within {early late : Prop} {inner own : List Token} {position : Position}
    (placed : PlacedUnless early inner position) (same : early ↔ late) (inside : inner <:+: own)
    : PlacedUnless late own position :=
  placed.imp (.imp_left same.mp) fun held => ⟨held.1 ∘ same.mpr, held.2.within inside⟩

/-- A text is read if it comes next, and what comes next is wrong if it is none. -/
theorem run_stringLiteral (before : Progress)
    : (∃ token rest value,
          before.rest = token :: rest
          ∧ stringLiteral.run before
            = .ok (value, ⟨rest, token :: before.written, before.leftover⟩))
      ∨ ∃ fault, stringLiteral.run before = .error ⟨fault, place before.rest⟩ := by
  obtain ⟨tokens, written, leftover⟩ := before
  match tokens with
  | [] => exact .inr ⟨_, rfl⟩
  | ⟨kind, spelling, position⟩ :: rest =>
      cases kind with
      | text value => exact .inl ⟨_, rest, value, rfl, rfl⟩
      | _ => exact .inr ⟨_, rfl⟩

theorem run_equals (before : Progress)
    : (∃ sign rest,
          before.rest = sign :: rest ∧ sign.isMark '=' = true
          ∧ (marks "=").run before = .ok ((), ⟨rest, sign :: before.written, before.leftover⟩))
      ∨ (∀ sign rest, before.rest = sign :: rest → sign.isMark '=' = false)
        ∧ ∃ fault, (marks "=").run before = .error ⟨fault, place before.rest⟩ := by
  obtain ⟨tokens, written, leftover⟩ := before
  match tokens with
  | [] => exact .inr ⟨nofun, _, rfl⟩
  | sign :: rest =>
      cases isEquals : sign.isMark '=' with
      | true =>
          refine .inl ⟨sign, rest, rfl, isEquals, ?_⟩
          exact (run_marks_eq_ok_iff _ _ _ _).mpr ⟨isEquals, rfl⟩
      | false =>
          refine .inr ⟨?_, .expected (named "="), ?_⟩
          · rintro _ _ ⟨⟩
            exact isEquals
          · change (if sign.isMark '=' = true then take _ else fail _).run _ = _
            rw [isEquals]
            rfl

/-- A text that cannot be read behind an equals sign is wrong where the reading stops. -/
theorem placed_of_textArgument {argument : List Token} {diagnostic : Diagnostic}
    (wrong : readAll textArgument argument = .error diagnostic)
    : PlacedUnless (TextEndsEarly argument) argument diagnostic.position := by
  rcases run_equals ⟨argument, [], none⟩ with
    ⟨sign, rest, same, isEquals, marked⟩ | ⟨other, fault, unmarked⟩
  case inr =>
    have failed : textArgument.run ⟨argument, [], none⟩ = .error ⟨fault, place argument⟩ :=
      (run_bind_eq_error_iff _ _ _ _).mpr (.inl unmarked)
    rw [readAll, failed] at wrong
    cases wrong
    cases argument with
    | nil => exact .inl ⟨.inl rfl, rfl⟩
    | cons first rest =>
        refine .inr ⟨?_, first, by simp, rfl⟩
        rintro (⟨⟨⟩⟩ | ⟨sign, ⟨⟩, isEquals⟩)
        rw [other first [] rfl] at isEquals
        cases isEquals
  case inl =>
    obtain rfl : argument = sign :: rest := same
    rcases run_stringLiteral ⟨rest, [sign], none⟩ with
      ⟨text, others, value, same, read⟩ | ⟨fault, unread⟩
    case inr =>
      have failed : textArgument.run ⟨sign :: rest, [], none⟩ = .error ⟨fault, place rest⟩ := by
        refine (run_bind_eq_error_iff _ _ _ _).mpr (.inr ⟨(), _, marked, ?_⟩)
        refine (run_bind_eq_error_iff _ _ _ _).mpr (.inr ⟨_, _, rfl, ?_⟩)
        exact (run_bind_eq_error_iff _ _ _ _).mpr (.inl unread)
      rw [readAll, failed] at wrong
      cases wrong
      cases rest with
      | nil => exact .inl ⟨.inr ⟨sign, rfl, isEquals⟩, rfl⟩
      | cons second rest =>
          refine .inr ⟨?_, second, by simp, rfl⟩
          rintro (⟨⟨⟩⟩ | ⟨_, ⟨⟩, -⟩)
    case inl =>
      obtain rfl : rest = text :: others := same
      have ran
          : textArgument.run ⟨sign :: text :: others, [], none⟩
              = .ok ((value, text.position), ⟨others, [text, sign], none⟩) := by
        refine (run_bind_eq_ok_iff _ _ _ _ _).mpr ⟨(), _, marked, ?_⟩
        refine (run_bind_eq_ok_iff _ _ _ _ _).mpr ⟨_, _, rfl, ?_⟩
        exact (run_bind_eq_ok_iff _ _ _ _ _).mpr ⟨value, _, read, rfl⟩
      rw [readAll, ran] at wrong
      cases others with
      | nil => cases wrong
      | cons third rest =>
          cases wrong
          refine .inr ⟨?_, third, by simp, rfl⟩
          rintro (⟨⟨⟩⟩ | ⟨_, ⟨⟩, -⟩)

/-- What is offered in front of the end of a group is one of the tokens up to that end. -/
theorem Progress.Offers.holds {progress : Progress} {position : Position}
    (offered : progress.Offers position) (ends : groupEnd progress.rest ≠ [])
    : Holds progress.rest position := by
  obtain ⟨rest, suffix, inside, placed⟩ := offered
  cases rest with
  | nil => exact absurd (List.suffix_nil.mp suffix) ends
  | cons token others => exact ⟨token, inside.mem (by simp), placed⟩

/-- What is wrong with a group stands at a token of the group or behind it. -/
theorem holds_of_group {α : Type} {delimiter : Delimiter} {contents : Reader α}
    {argument : List Token} (balanced : Balanced argument) (given : argument ≠ [])
    {diagnostic : Diagnostic}
    (wrong : readAll (group delimiter contents) argument = .error diagnostic)
    : Holds argument diagnostic.position := by
  let start : Progress := ⟨argument, [], none⟩
  have inner : (Progress.behind start 1).rest <:+ argument := List.drop_suffix 1 argument
  -- Inside of the group there is a token up to which something can be wrong: the one that closes.
  have inside (opens : start.rest.head?.any (·.isOpening delimiter) = true)
      (offered : (Progress.behind start 1).Offers diagnostic.position)
      : Holds argument diagnostic.position := by
    have closes : Closes [delimiter] (Progress.behind start 1).rest := Closes.opened balanced opens
    obtain ⟨closing, rest, ends, -, -⟩ := closes.groupEnd_eq_cons
    exact (offered.holds (by rw [ends]; nofun)).within inner.isInfix
  rcases run_of_readAll_eq_error wrong with failed | ⟨value, after, ran, left⟩
  case inl =>
    change runEnclosed delimiter _ contents pure start = _ at failed
    unfold runEnclosed at failed
    split at failed
    case isFalse =>
      cases failed
      cases argument with
      | nil => exact absurd rfl given
      | cons first rest => exact ⟨first, by simp, rfl⟩
    case isTrue opens =>
      split at failed
      case h_1 => cases failed
      case h_2 found read =>
        cases failed
        exact inside opens ((contents.keeps _).placed read)
  case inr =>
    obtain ⟨opens, middle, read, rfl⟩ := (run_group_eq_ok_iff _ _ _ _ _).mp ran
    have leads := leads_of_run read
    rcases left with kept | ⟨-, token, rest, same, placed⟩
    · rcases Option.or_eq_some_iff.mp kept with earlier | ⟨-, found⟩
      · rcases leads.leftover earlier with ⟨⟨⟩⟩ | offered
        exact inside opens offered
      · split at found
        · cases found
        · obtain placed := Option.some.inj found
          exact inside opens (leads.offers (placed ▸ middle.offers_place))
    · have suffix := (Progress.leave_suffix middle).trans (leads.suffix.trans inner)
      have held : Holds (Progress.leave middle).rest diagnostic.position :=
        ⟨token, same ▸ by simp, placed⟩
      exact held.within suffix.isInfix

theorem placed_of_foreignKey {argument : List Token} (balanced : Balanced argument)
    {diagnostic : Diagnostic} (wrong : foreignKey argument = .error diagnostic)
    : PlacedUnless (argument = []) argument diagnostic.position := by
  cases argument with
  | nil =>
      cases wrong
      exact .inl ⟨rfl, rfl⟩
  | cons first rest => exact .inr ⟨nofun, holds_of_group balanced nofun wrong⟩

-----------------------------------------------------------------------------------------
-- Attributes
-----------------------------------------------------------------------------------------

/-- The argument of an attribute ends before all that it needs has come. -/
inductive Attribute.EndsEarly (given : Attribute) : Prop
  | text (named : given.name = some "column" ∨ given.name = some "json")
    (early : TextEndsEarly given.tokens)
  | arrow (named : given.name = some "foreign") (early : given.tokens = [])

theorem mem_faultOf_iff {α : Type} {outcome : Except Diagnostic α} {diagnostic : Diagnostic}
    : diagnostic ∈ faultOf outcome ↔ outcome = .error diagnostic := by
  cases outcome <;> simp [faultOf, eq_comm]

namespace Attribute

variable {given : Attribute}

theorem endsEarly_iff_of_text (named : given.name = some "column" ∨ given.name = some "json")
    : TextEndsEarly given.tokens ↔ given.EndsEarly := by
  refine ⟨.text named, ?_⟩
  rintro (⟨-, early⟩ | ⟨other, -⟩)
  · exact early
  · simp [other] at named

theorem endsEarly_iff_of_arrow (named : given.name = some "foreign")
    : given.tokens = [] ↔ given.EndsEarly := by
  refine ⟨.arrow named, ?_⟩
  rintro (⟨other, -⟩ | ⟨-, early⟩)
  · simp [named] at other
  · exact early

theorem EndsEarly.named (early : given.EndsEarly)
    : given.name = some "column" ∨ given.name = some "json" ∨ given.name = some "foreign" := by
  rcases early with ⟨named, -⟩ | ⟨named, -⟩
  · exact named.imp_right .inl
  · exact .inr (.inr named)

/-- What is wrong with an attribute stands at its name or in its argument, if that has not ended. -/
theorem StandsIn.placed {own : List Token} (stands : given.StandsIn own) {diagnostic : Diagnostic}
    (wrong : diagnostic ∈ given.faults)
    : PlacedUnless given.EndsEarly own diagnostic.position := by
  unfold faults at wrong
  split at wrong
  case h_1 => cases wrong
  case h_2 named | h_3 named =>
    obtain ⟨token, first, rfl⟩ := List.mem_map.mp wrong
    have member : token ∈ given.tokens := List.mem_of_head? (Option.mem_toList.mp first)
    have held : Holds given.tokens token.position := ⟨token, member, rfl⟩
    refine .inr ⟨fun early => ?_, held.within stands.tokens⟩
    simpa [named] using early.named
  case h_4 named =>
    have placed := placed_of_textArgument (mem_faultOf_iff.mp wrong)
    exact placed.within (endsEarly_iff_of_text (.inl named)) stands.tokens
  case h_5 named =>
    have placed := placed_of_textArgument (mem_faultOf_iff.mp wrong)
    exact placed.within (endsEarly_iff_of_text (.inr named)) stands.tokens
  case h_6 named =>
    have placed := placed_of_foreignKey stands.balanced (mem_faultOf_iff.mp wrong)
    exact placed.within (endsEarly_iff_of_arrow named) stands.tokens
  case h_7 =>
    obtain rfl := List.mem_singleton.mp wrong
    refine .inr ⟨fun early => ?_, stands.position⟩
    rcases early.named with named | named | named <;> contradiction

/-- The text of an attribute stands in its argument. -/
theorem holds_of_text? {found : String × Position} (told : given.text? = some found)
    : Holds given.tokens found.2 := by
  unfold text? at told
  split at told
  case h_1 joint sign equals value spelling position same =>
    cases told
    rw [same]
    exact ⟨_, List.mem_cons_of_mem _ (List.mem_singleton_self _), rfl⟩
  case h_2 => cases told

end Attribute

-----------------------------------------------------------------------------------------
-- Members
-----------------------------------------------------------------------------------------

theorem TypeShape.position_mem (shape : TypeShape) : shape.position ∈ shape.positions := by
  cases shape <;> simp [TypeShape.positions, TypeShape.position]

namespace MemberSyntax

/-- The first attribute of a member that something is wrong with. -/
def firstFaulty? (written : MemberSyntax) : Option Attribute :=
  written.attributes.find? (!·.faults.isEmpty)

/-- The first thing that is wrong with a member is an attribute whose argument ends early. -/
def EndsEarly (written : MemberSyntax) : Prop :=
  ∃ given, written.firstFaulty? = some given ∧ given.EndsEarly

variable {written : MemberSyntax} {own : List Token} {diagnostic : Diagnostic}

namespace StandsIn

theorem holds_start (stands : written.StandsIn own) : Holds own written.start := by
  obtain ⟨token, first, placed⟩ := Option.map_eq_some_iff.mp stands.start
  exact ⟨token, List.mem_of_head? first, placed⟩

theorem holds_lastNamed (stands : written.StandsIn own) {name : String} {given : Attribute}
    (last : lastNamed name written.attributes = some given)
    : Holds own given.position :=
  (stands.attributes given (mem_of_lastNamed last).1).position

theorem holds_returns (stands : written.StandsIn own) {shape : TypeShape}
    (returns : written.returns = some shape) {position : Position}
    (told : position ∈ shape.positions)
    : Holds own position := by
  refine stands.told position (List.mem_append_right _ ?_)
  rw [returns]
  exact List.mem_flatMap.mpr ⟨shape, by simp, told⟩

/-- The type of a row is among the tokens of its member, as is the start, which stands in for it. -/
theorem holds_rowPosition (stands : written.StandsIn own) : Holds own written.rowPosition := by
  unfold rowPosition
  split
  case h_1 position element returns =>
    exact stands.holds_returns returns (by simp [TypeShape.positions])
  case h_2 shape _ returns => exact stands.holds_returns returns shape.position_mem
  case h_3 => exact stands.holds_start

end StandsIn

theorem position_of_mem_returnFaults (wrong : diagnostic ∈ written.returnFaults)
    : diagnostic.position = written.rowPosition := by
  have path {shape : TypeShape} (wrong : diagnostic ∈ shape.pathFaults)
      : diagnostic.position = shape.position := by
    cases shape with
    | named => cases wrong
    | _ => rw [List.mem_singleton.mp wrong]
  unfold returnFaults at wrong
  unfold rowPosition
  split at wrong
  case h_1 returns => rw [List.mem_singleton.mp wrong, returns]
  case h_2 position element returns =>
    rw [returns]
    exact path wrong
  case h_3 shape other returns =>
    rw [returns, path wrong]
    cases shape with
    | slice position element => exact (other position element rfl).elim
    | _ => rfl

/-- All that is wrong with a member apart from its attributes stands among its tokens. -/
theorem StandsIn.holds_fault (stands : written.StandsIn own)
    (wrong
      : diagnostic ∈ written.argumentFaults
          ++ (written.returnFaults
            ++ ((written.conflictFaults ++ written.quantityFaults) ++ written.columnFaults)))
    : Holds own diagnostic.position := by
  simp only [List.mem_append] at wrong
  rcases wrong with argument | returned | (conflict | quantity) | column
  · obtain ⟨position, first, rfl⟩ := List.mem_map.mp argument
    exact stands.told position (List.mem_append_left _ first)
  · exact position_of_mem_returnFaults returned ▸ stands.holds_rowPosition
  · unfold conflictFaults at conflict
    split at conflict
    case h_1 other given _ last =>
      rw [List.mem_singleton.mp conflict]
      exact stands.holds_lastNamed last
    case h_2 => cases conflict
  · obtain ⟨fault, -, rfl⟩ := List.mem_map.mp quantity
    exact stands.holds_rowPosition
  · unfold columnFaults at column
    split at column
    case isTrue => cases column
    case isFalse =>
      rcases List.mem_append.mp column with key | renamed
      · obtain ⟨given, last, rfl⟩ := List.mem_map.mp key
        exact stands.holds_lastNamed (Option.mem_toList.mp last)
      · obtain ⟨found, told, rfl⟩ := List.mem_map.mp renamed
        obtain ⟨given, last, text⟩ := Option.bind_eq_some_iff.mp (Option.mem_toList.mp told)
        have member := (mem_of_lastNamed last).1
        exact (Attribute.holds_of_text? text).within (stands.attributes given member).tokens

/-- The first of the faults of some attributes is one of the first attribute that has any. -/
theorem head?_flatMap_faults (attributes : List Attribute)
    : (attributes.flatMap (·.faults)).head?
        = (attributes.find? (!·.faults.isEmpty)).bind (·.faults.head?) := by
  induction attributes with
  | nil => rfl
  | cons given rest ih => cases none : given.faults <;> simp [none, ih]

/-- What is reported of a member stands at one of its tokens, unless an attribute ends early. -/
theorem StandsIn.placed (stands : written.StandsIn own)
    (first : written.faults.head? = some diagnostic)
    : PlacedUnless written.EndsEarly own diagnostic.position := by
  unfold faults at first
  rw [List.head?_append, head?_flatMap_faults] at first
  change (written.firstFaulty?.bind (·.faults.head?)).or _ = _ at first
  cases faulty : written.firstFaulty? with
  | none =>
      rw [faulty] at first
      refine .inr ⟨?_, stands.holds_fault (List.mem_of_head? first)⟩
      rintro ⟨given, found, -⟩
      rw [faulty] at found
      cases found
  | some given =>
      have early : given.EndsEarly ↔ written.EndsEarly := by
        simp [EndsEarly, faulty]
      have member := List.mem_of_find?_eq_some faulty
      have reported : given.faults.head? = some diagnostic := by
        have wrong := List.find?_some faulty
        rw [faulty, Option.bind_some] at first
        cases found : given.faults with
        | nil =>
            rw [found] at wrong
            cases wrong
        | cons fault more =>
            rw [found] at first
            exact first
      have placed := (stands.attributes given member).placed (List.mem_of_head? reported)
      exact placed.within early (List.infix_refl own)

end MemberSyntax

-----------------------------------------------------------------------------------------
-- Declarations
-----------------------------------------------------------------------------------------

/-- The call that a declaration has for a member. -/
def MemberSite.call (site : MemberSite) : Call := memberCall (Member.ofSyntax site.written)

/-- A declaration reports what is wrong with its members. There is one call for each member in their
order, and where it is a fault, it is placed at one of the member's own tokens. Only where an
argument ends early it is placed at the start of the text, and there no member has a token. A second
primary key is reported at the first token of the second member that is one.
-/
structure Expansion.ReportsAtMembers (expansion : Expansion) (sites : List MemberSite)
    (keys : List Call) : Prop where
  calls
    : ∃ table : Option String,
        expansion.calls
          = [.new expansion.type.name] ++ (table.map Call.tableName).toList ++ keys
            ++ sites.map (·.call)
  entries : KeyEntries (sites.map (·.written)) keys
  behind : ∀ site ∈ sites, ∀ token ∈ site.own, Position.start.Before token.position
  members
    : ∀ site ∈ sites, ∀ diagnostic,
        site.call = .fault diagnostic
        → PlacedUnless site.written.EndsEarly site.own diagnostic.position
  secondKey
    : ∀ diagnostic,
        .fault diagnostic ∈ keys
        → diagnostic.fault = .secondPrimaryKey
          ∧ ∃ before first between second behind,
            sites = before ++ first :: (between ++ second :: behind)
            ∧ first.written.IsKey ∧ second.written.IsKey
            ∧ (∀ site ∈ before ++ between, ¬ site.written.IsKey)
            ∧ second.own.head?.map (·.position) = some diagnostic.position

theorem MemberSite.placed_of_call {site : MemberSite} {diagnostic : Diagnostic}
    (reported : site.call = .fault diagnostic)
    : PlacedUnless site.written.EndsEarly site.own diagnostic.position := by
  have wrong : Member.ofSyntax site.written = .error diagnostic := by
    unfold call at reported
    cases outcome : Member.ofSyntax site.written with
    | error found =>
        rw [outcome] at reported
        cases reported
        rfl
    | ok member =>
        rw [outcome, memberCall, Member.call] at reported
        split at reported <;> cases reported
  exact site.stands.placed ((MemberSyntax.reports_ofSyntax site.written).eq_error_iff _ |>.mp wrong)

theorem Block.Encloses.before_of_mem {text : String} {content : List Token}
    (read : tokens text = some content) {sites : List MemberSite}
    (encloses : Block.Encloses content sites) {site : MemberSite} (member : site ∈ sites)
    : ∀ token ∈ site.own, Position.start.Before token.position := by
  obtain ⟨whole, opens, layout, -⟩ := encloses
  rw [whole] at read
  intro token own
  refine before_of_opening_brace read opens token ?_
  rw [layout.eq_append]
  exact List.mem_append_left _ (List.mem_flatMap.mpr ⟨site, member, own⟩)

/-- A fault among the entries for the primary key is the second key's. -/
theorem secondKey_of_entries {sites : List MemberSite} {keys : List Call}
    (entries : KeyEntries (sites.map (·.written)) keys) {diagnostic : Diagnostic}
    (reported : .fault diagnostic ∈ keys)
    : diagnostic.fault = .secondPrimaryKey
      ∧ ∃ before first between second behind,
        sites = before ++ first :: (between ++ second :: behind)
        ∧ first.written.IsKey ∧ second.written.IsKey
        ∧ (∀ site ∈ before ++ between, ¬ site.written.IsKey)
        ∧ second.own.head?.map (·.position) = some diagnostic.position := by
  generalize all : sites.map (·.written) = members at entries
  cases entries with
  | none => cases reported
  | one => cases List.mem_singleton.mp reported
  | several isKey isKeyToo only =>
      cases List.mem_singleton.mp reported
      obtain ⟨before, _, rfl, rfl, fromFirst⟩ := List.map_eq_append_iff.mp all
      obtain ⟨first, _, rfl, rfl, behindFirst⟩ := List.map_eq_cons_iff.mp fromFirst
      obtain ⟨between, _, rfl, rfl, fromSecond⟩ := List.map_eq_append_iff.mp behindFirst
      obtain ⟨second, behind, rfl, rfl, rfl⟩ := List.map_eq_cons_iff.mp fromSecond
      have others (site : MemberSite) (member : site ∈ before ++ between)
          : ¬ site.written.IsKey := by
        refine only site.written ?_
        rw [← List.map_append]
        exact List.mem_map_of_mem member
      exact ⟨rfl, before, first, between, second, behind, rfl, isKey, isKeyToo, others,
        second.stands.start⟩

/-- Faults are reported at members. If a declaration has an expansion, its block encloses the
members, one behind another, and each fault stands at a token of the member that it is reported for,
except for those that are placed at the start of the text because an argument ends early.
-/
theorem faults_reported_at_members {argument text : String} {expansion : Expansion}
    (expanded : expand argument text = .ok expansion)
    : ∃ content sites keys,
        tokens text = some content ∧ Block.Encloses content sites
        ∧ expansion.ReportsAtMembers sites keys := by
  obtain ⟨given, content, table, found, -, read, -, parsed, rfl⟩ :=
    (expand_eq_ok_iff _ _ _).mp expanded
  obtain ⟨sites, encloses, members⟩ := encloses_of_readAll (balanced_of_tokens read) parsed
  obtain ⟨keys, told⟩
      : ∃ keys, primaryKeyCalls (faultless (found.members.map Member.ofSyntax)) = keys := ⟨_, rfl⟩
  have entries : KeyEntries (sites.map (·.written)) keys := by
    rw [← members, ← told]
    exact keyEntries_primaryKeyCalls found.members
  have own : (found.members.map Member.ofSyntax).map memberCall = sites.map (·.call) := by
    rw [members, List.map_map, List.map_map]
    rfl
  refine ⟨content, sites, keys, read, encloses, ⟨table, ?calls⟩, entries, ?behind, ?members,
    ?secondKey⟩
  case calls =>
    rw [← own, ← told]
    rfl
  case behind => exact fun site member => encloses.before_of_mem read member
  case members => exact fun site _ diagnostic reported => MemberSite.placed_of_call reported
  case secondKey => exact fun diagnostic reported => secondKey_of_entries entries reported

/-- A block whose only member has an attribute without the name that it needs. -/
def unnamedColumnBlock : String := "impl User \x7b\n  #[column]\n  fn id() -> i64;\n\x7d"

theorem faults_reported_at_members_of_unnamed_column
    : ∃ expansion content sites keys site,
        expand "\"user\"" unnamedColumnBlock = .ok expansion
        ∧ tokens unnamedColumnBlock = some content ∧ Block.Encloses content sites
        ∧ expansion.ReportsAtMembers sites keys
        ∧ site ∈ sites ∧ site.call = .fault ⟨.expected "`=`", .start⟩
        ∧ site.written.EndsEarly ∧ ¬ Holds site.own .start := by
  have reported
      : (expand "\"user\"" unnamedColumnBlock).toOption.map (·.calls)
          = some [.new "User", .tableName "user", .fault ⟨.expected "`=`", .start⟩] := by
    decide +kernel
  obtain ⟨expansion, success, calls⟩ := Option.map_eq_some_iff.mp reported
  have expanded := eq_ok_of_toOption success
  obtain ⟨content, sites, keys, read, encloses, reports⟩ := faults_reported_at_members expanded
  obtain ⟨site, member, called⟩
      : ∃ site ∈ sites, site.call = .fault ⟨.expected "`=`", .start⟩ := by
    obtain ⟨table, all⟩ := reports.calls
    have inside : .fault ⟨.expected "`=`", .start⟩ ∈ expansion.calls := by simp [calls]
    rw [all] at inside
    simp only [List.mem_append, List.mem_singleton, reduceCtorEq, false_or] at inside
    rcases inside with (named | key) | entry
    · simp at named
    · cases (reports.secondKey _ key).1
    · exact List.mem_map.mp entry
  have outside : ¬ Holds site.own .start := by
    rintro ⟨token, own, placed⟩
    have before := reports.behind site member token own
    rw [placed] at before
    exact before.irrefl
  have early : site.written.EndsEarly := by
    rcases reports.members site member _ called with ⟨early, -⟩ | ⟨-, held⟩
    · exact early
    · exact absurd held outside
  exact ⟨expansion, content, sites, keys, site, expanded, read, encloses, reports, member, called,
    early, outside⟩

end NestedSelect.Declaration
