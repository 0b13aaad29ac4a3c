import NestedSelect.Declaration.Expansion
import NestedSelect.Proofs.Declaration.MemberMeaning
/-!
What a declaration expands into. Each member has its own call or its own fault, whatever is wrong
with the others, and the primary key is told from the accepted members alone. Without a fault the
calls make a schema with the fields and relations of the members, in the order of the block.
-/

namespace NestedSelect.Declaration

open Reader

-----------------------------------------------------------------------------------------
-- The implemented path
-----------------------------------------------------------------------------------------

/-- A path is what a route is read as: it has the name of the last segment. -/
inductive Path.IsReadAs (route : Route) : Path → Prop
  | intro {depth : Nat} {before after : Progress} {record : Record}
    (read
      : (recorded ((Grammar.ofDepth depth).namedRoute false)).run before
          = .ok ((route, record), after))
    : Path.IsReadAs route ⟨route.last.name, record.written, place before.rest⟩

theorem Path.IsReadAs.name_eq {route : Route} {path : Path} (readAs : path.IsReadAs route)
    : path.name = route.last.name := by
  cases readAs
  rfl

/-- The path that a block implements something for: the one behind `for` where that follows the
first path, and the first path otherwise.
-/
inductive Implements (tokens : List Token) : Path → Prop
  | own {opened after : Progress} {path : Path}
    (keyword : (attributes >>= fun _ => word "impl").run ⟨tokens, [], none⟩ = .ok ((), opened))
    (read : (withGrammar Grammar.path).run opened = .ok (path, after))
    (alone : nextWord "for" after.rest = false)
    : Implements tokens path
  | trait {opened middle after : Progress} {first path : Path}
    (keyword : (attributes >>= fun _ => word "impl").run ⟨tokens, [], none⟩ = .ok ((), opened))
    (readFirst : (withGrammar Grammar.path).run opened = .ok (first, middle))
    (followed : nextWord "for" middle.rest = true)
    (read : (withGrammar Grammar.path).run (Progress.behind middle 1) = .ok (path, after))
    : Implements tokens path

/-- Whatever is read as a path is read as a route. -/
theorem isReadAs_of_run {path : Path} {before after : Progress}
    (read : (withGrammar Grammar.path).run before = .ok (path, after))
    : ∃ route, path.IsReadAs route := by
  unfold withGrammar remaining at read
  simp only [run_bind_eq_ok_iff, run_look_eq_ok_iff] at read
  obtain ⟨length, middle, ⟨-, rfl⟩, read⟩ := read
  unfold Grammar.path at read
  simp only [run_bind_eq_ok_iff, run_look_eq_ok_iff] at read
  obtain ⟨position, middle, ⟨rfl, rfl⟩, ⟨route, record⟩, behind, read, ⟨⟩, final, -, made⟩ := read
  obtain ⟨rfl, -⟩ := (run_pure_eq_ok_iff _ _ _ _).mp made
  exact ⟨route, .intro read⟩

/-- The type of a block is the path that it is for. -/
theorem implements_of_readAll {tokens : List Token} {found : Block}
    (read : readAll block tokens = .ok found)
    : Implements tokens found.type ∧ ∃ route, found.type.IsReadAs route := by
  obtain ⟨after, ran, -⟩ := (readAll_eq_ok_iff _ _ _).mp read
  unfold block at ran
  simp only [run_bind_eq_ok_iff] at ran
  obtain ⟨given, opened, marked, ⟨⟩, started, keyword, first, middle, readFirst, value, next,
    asked, rest⟩ := ran
  have keyword : (attributes >>= fun _ => word "impl").run ⟨tokens, [], none⟩ = .ok ((), started) :=
    (run_bind_eq_ok_iff _ _ _ _ _).mpr ⟨given, opened, marked, keyword⟩
  rw [run_wordIf] at asked
  cases followed : nextWord "for" middle.rest with
  | false =>
      rw [followed] at asked
      cases asked
      simp only [Bool.false_eq_true, if_false, run_bind_eq_ok_iff, run_pure_eq_ok_iff] at rest
      obtain ⟨_, _, ⟨rfl, -⟩, members, _, -, rfl, -⟩ := rest
      exact ⟨.own keyword readFirst followed, isReadAs_of_run readFirst⟩
  | true =>
      rw [followed] at asked
      cases asked
      simp only [if_true, run_bind_eq_ok_iff, run_pure_eq_ok_iff] at rest
      obtain ⟨path, _, readType, members, _, -, rfl, -⟩ := rest
      exact ⟨.trait keyword readFirst followed readType, isReadAs_of_run readType⟩

-----------------------------------------------------------------------------------------
-- Calls
-----------------------------------------------------------------------------------------

namespace MemberSyntax

variable (written : MemberSyntax)

/-- What the call for a member tells when the member is accepted. -/
inductive Describes : Call → Prop
  | column (plain : written.IsColumn)
    : Describes (.field written.columnName written.jsonKey)
  | foreign {key : ForeignKey} (described : written.foreignKey? = some key)
    (joined : ¬ written.IsMarked "embed")
    : Describes
        (.relation (if key.referencesSelf then .many else .one) written.name key.column key.other
          (written.text? "json"))
  | embed {path : Path} (own : ¬ written.IsMarked "foreign") (taken : written.IsMarked "embed")
    (row : written.rowType? = some path)
    : Describes (.embed written.name path (written.text? "json"))

/-- There is something wrong with a member. -/
def IsFaulty : Prop := ∃ diagnostic, Member.ofSyntax written = .error diagnostic

/-- The entry for a member among the calls: what is wrong with it, or what it describes. -/
inductive Entry : Call → Prop
  | faulty {diagnostic : Diagnostic} (wrong : Member.ofSyntax written = .error diagnostic)
    : Entry (.fault diagnostic)
  | accepted {call : Call} (right : ¬ written.IsFaulty) (describes : written.Describes call)
    : Entry call

/-- An accepted member that is a column and a primary key. -/
def IsKey : Prop :=
  ¬ written.IsFaulty ∧ written.IsColumn ∧ written.IsMarked "primary_key"

variable {written}

theorem not_isFaulty_iff : ¬ written.IsFaulty ↔ ∃ member, Member.ofSyntax written = .ok member := by
  unfold IsFaulty
  cases Member.ofSyntax written with
  | error diagnostic => simp
  | ok member => simp

theorem isMarked_of_foreignKey? {key : ForeignKey} (described : written.foreignKey? = some key)
    : written.IsMarked "foreign" := by
  obtain ⟨given, last, -⟩ := Option.bind_eq_some_iff.mp described
  exact ⟨given, mem_of_lastNamed last⟩

theorem foreignKey?_of_not_isMarked (own : ¬ written.IsMarked "foreign")
    : written.foreignKey? = none := by
  rw [foreignKey?, (lastNamed_eq_none_iff "foreign").mpr own, Option.bind_none]

/-- The call for a member tells what the member means. -/
theorem Means.describes {member : Member} (means : written.Means member)
    : written.Describes member.call := by
  cases means with
  | column plain => exact .column plain
  | foreign described joined => exact .foreign described joined
  | embed own taken row => exact .embed own taken row

/-- Each member has its own entry, be it faulty or not. -/
theorem entry_memberCall (written : MemberSyntax)
    : written.Entry (memberCall (Member.ofSyntax written)) := by
  cases outcome : Member.ofSyntax written with
  | error diagnostic => exact .faulty outcome
  | ok member =>
      exact .accepted (not_isFaulty_iff.mpr ⟨member, outcome⟩) (means_of_ofSyntax outcome).describes

end MemberSyntax

/-- The members of a block have their entries in step. -/
theorem forall₂_entry (members : List MemberSyntax)
    : List.Forall₂ MemberSyntax.Entry members ((members.map Member.ofSyntax).map memberCall) := by
  rw [List.map_map, List.forall₂_map_right_iff]
  exact List.forall₂_same.mpr fun written _ => written.entry_memberCall

-----------------------------------------------------------------------------------------
-- Primary keys
-----------------------------------------------------------------------------------------

/-- The entries for the primary key of some members: none without a key, the column of a single
key, and a fault at the second one of several keys.
-/
inductive KeyEntries : List MemberSyntax → List Call → Prop
  | none {members : List MemberSyntax} (absent : ∀ written ∈ members, ¬ written.IsKey)
    : KeyEntries members []
  | one {before behind : List MemberSyntax} {key : MemberSyntax} (isKey : key.IsKey)
    (only : ∀ written ∈ before ++ behind, ¬ written.IsKey)
    : KeyEntries (before ++ key :: behind) [.primaryKey key.columnName]
  | several {before between behind : List MemberSyntax} {first second : MemberSyntax}
    (isKey : first.IsKey) (isKeyToo : second.IsKey)
    (only : ∀ written ∈ before ++ between, ¬ written.IsKey)
    : KeyEntries (before ++ first :: (between ++ second :: behind))
        [.fault ⟨.secondPrimaryKey, second.start⟩]

/-- A member with its column, if it is accepted as a primary key. -/
def MemberSyntax.key? (written : MemberSyntax) : Option (Member × String) :=
  (Member.ofSyntax written).toOption.bind fun member => member.primaryKey?.map (member, ·)

/-- The keys among the members that are as they should be are those among all members. -/
theorem filterMap_faultless (members : List MemberSyntax)
    : ((faultless (members.map Member.ofSyntax)).filterMap fun member =>
          member.primaryKey?.map (member, ·))
        = members.filterMap (·.key?) := by
  unfold faultless
  rw [List.filterMap_map, List.filterMap_filterMap]
  congr 1
  funext written
  unfold MemberSyntax.key?
  simp only [Function.comp_apply]
  cases Member.ofSyntax written <;> rfl

/-- An accepted member is a primary key exactly if it is a column and is marked as one. -/
theorem MemberSyntax.Means.primaryKey?_eq {written : MemberSyntax} {member : Member}
    (means : written.Means member)
    : member.primaryKey?
        = if written.IsColumn ∧ written.IsMarked "primary_key" then some written.columnName
          else none := by
  cases means with
  | column plain =>
      unfold Member.primaryKey?
      by_cases marked : written.IsMarked "primary_key"
      · simp [plain, marked]
      · simp [marked]
  | foreign described joined =>
      have other : ¬ written.IsColumn := fun plain => plain.1 (isMarked_of_foreignKey? described)
      simp [Member.primaryKey?, other]
  | embed own taken row =>
      have other : ¬ written.IsColumn := fun plain => plain.2 taken
      simp [Member.primaryKey?, other]

theorem MemberSyntax.key?_eq_some_iff {written : MemberSyntax} {member : Member} {column : String}
    : written.key? = some (member, column)
      ↔ Member.ofSyntax written = .ok member ∧ written.IsKey ∧ column = written.columnName := by
  unfold key? IsKey
  cases outcome : Member.ofSyntax written with
  | error diagnostic => simp [Except.toOption]
  | ok accepted =>
      have right : ¬ written.IsFaulty := not_isFaulty_iff.mpr ⟨accepted, outcome⟩
      simp only [Except.toOption, Option.bind_some, (means_of_ofSyntax outcome).primaryKey?_eq]
      by_cases marked : written.IsColumn ∧ written.IsMarked "primary_key"
      · simp [marked, right, eq_comm]
      · simp [marked]

theorem MemberSyntax.key?_eq_none_iff {written : MemberSyntax}
    : written.key? = none ↔ ¬ written.IsKey := by
  constructor
  · intro absent isKey
    obtain ⟨member, accepted⟩ := not_isFaulty_iff.mp isKey.1
    have found := key?_eq_some_iff.mpr ⟨accepted, isKey, rfl⟩
    rw [absent] at found
    cases found
  · intro absent
    cases found : written.key? with
    | none => rfl
    | some pair => exact absurd (key?_eq_some_iff.mp found).2.1 absent

/-- The primary key is told from the accepted members. -/
theorem keyEntries_primaryKeyCalls (members : List MemberSyntax)
    : KeyEntries members (primaryKeyCalls (faultless (members.map Member.ofSyntax))) := by
  have absent {others : List MemberSyntax} (none : ∀ written ∈ others, written.key? = none)
      : ∀ written ∈ others, ¬ written.IsKey :=
    fun written member => MemberSyntax.key?_eq_none_iff.mp (none written member)
  unfold primaryKeyCalls
  rw [filterMap_faultless]
  split
  case h_1 found => exact .none (absent (List.filterMap_eq_nil_iff.mp found))
  case h_2 member column found =>
    obtain ⟨before, key, behind, rfl, none, told, rest⟩ := List.filterMap_eq_cons_iff.mp found
    obtain ⟨-, isKey, rfl⟩ := MemberSyntax.key?_eq_some_iff.mp told
    have noneBehind := List.filterMap_eq_nil_iff.mp rest
    refine .one isKey (absent fun written member => ?_)
    exact (List.mem_append.mp member).elim (none written) (noneBehind written)
  case h_3 first second column rest found =>
    obtain ⟨before, key, others, rfl, none, told, later⟩ := List.filterMap_eq_cons_iff.mp found
    obtain ⟨between, next, behind, rfl, noneBetween, toldToo, -⟩ :=
      List.filterMap_eq_cons_iff.mp later
    have isKey := (MemberSyntax.key?_eq_some_iff.mp told).2.1
    obtain ⟨accepted, isKeyToo, -⟩ := MemberSyntax.key?_eq_some_iff.mp toldToo
    have placed : second.start = next.start := by
      obtain ⟨-, -, _, _, -, -, -, rfl⟩ := (Member.ofSyntax_eq_ok_iff next second).mp accepted
      rfl
    rw [placed]
    refine .several isKey isKeyToo (absent fun written member => ?_)
    exact (List.mem_append.mp member).elim (none written) (noneBetween written)

-----------------------------------------------------------------------------------------
-- Schemas
-----------------------------------------------------------------------------------------

namespace MemberSyntax

variable {size : Nat} (find : Path → Option (Fin size)) (written : MemberSyntax)

/-- The path of the schema that the member leads to, if it leads to one. -/
def target? : Option Path :=
  match written.foreignKey? with
  | some key => some key.other
  | none => if written.IsMarked "embed" then written.rowType? else none

/-- The schema that the member leads to can be found, if it leads to one. -/
def IsFound : Prop := ∀ path, written.target? = some path → ∃ index, find path = some index

/-- The relation that the member declares. -/
inductive Links : RelationLink size → Prop
  | foreign {key : ForeignKey} {index : Fin size} (described : written.foreignKey? = some key)
    (joined : ¬ written.IsMarked "embed") (target : find key.other = some index)
    : Links ⟨written.name, if key.referencesSelf then .many else .one, key.column,
        written.jsonKey, false, index⟩
  | embed {path : Path} {index : Fin size} (own : ¬ written.IsMarked "foreign")
    (taken : written.IsMarked "embed") (row : written.rowType? = some path)
    (target : find path = some index)
    : Links ⟨written.name, .one, "", written.jsonKey, true, index⟩

/-- The field of a member that is a column. -/
def field : Field := ⟨written.columnName, written.jsonKey⟩

variable {find written}

/-- A call that is carried out adds what its member declares, and nothing else. -/
theorem Describes.perform {call : Call} (describes : written.Describes call)
    (found : written.IsFound find) (schema : Schema size)
    : (written.IsColumn
        ∧ call.perform find schema
          = some { schema with fields := schema.fields ++ [written.field] })
      ∨ ¬ written.IsColumn ∧ ∃ link, written.Links find link
        ∧ call.perform find schema
          = some { schema with relations := schema.relations ++ [link] } := by
  cases describes with
  | column plain => exact .inl ⟨plain, rfl⟩
  | @foreign key described joined =>
      obtain ⟨index, target⟩ := found key.other (by rw [target?, described])
      refine .inr ⟨fun plain => plain.1 (isMarked_of_foreignKey? described), _,
        .foreign described joined target, ?_⟩
      simp only [Call.perform, target, Option.map_some]
      rfl
  | @embed path own taken row =>
      obtain ⟨index, target⟩ :=
        found path (by simp [target?, foreignKey?_of_not_isMarked own, taken, row])
      refine .inr ⟨fun plain => plain.2 taken, _, .embed own taken row target, ?_⟩
      simp only [Call.perform, target, Option.map_some]
      rfl

end MemberSyntax

/-- The calls for members add their fields and their relations in order, by induction over the
members.
-/
theorem perform_entries {size : Nat} {find : Path → Option (Fin size)}
    {members : List MemberSyntax} {entries : List Call}
    (inStep : List.Forall₂ MemberSyntax.Entry members entries)
    (faultless : ∀ diagnostic, .fault diagnostic ∉ entries)
    (found : ∀ written ∈ members, written.IsFound find) (schema : Schema size)
    : ∃ links,
        List.Forall₂ (MemberSyntax.Links find) (members.filter (¬ ·.IsColumn)) links
          ∧ entries.foldlM (Call.perform find) schema
            = some { schema with
                fields := schema.fields ++ (members.filter (·.IsColumn)).map (·.field)
                relations := schema.relations ++ links } := by
  induction inStep generalizing schema with
  | nil => exact ⟨[], .nil, by simp⟩
  | @cons written call members entries entry _ ih =>
      have describes : written.Describes call := by
        cases entry with
        | @faulty diagnostic wrong => exact absurd (by simp) (faultless diagnostic)
        | accepted right describes => exact describes
      have faultlessBehind (diagnostic : Diagnostic) : .fault diagnostic ∉ entries :=
        fun member => faultless diagnostic (List.mem_cons_of_mem _ member)
      have foundBehind (other : MemberSyntax) (member : other ∈ members) : other.IsFound find :=
        found other (List.mem_cons_of_mem _ member)
      rw [List.foldlM_cons]
      rcases describes.perform (found written (by simp)) schema with
        ⟨plain, performed⟩ | ⟨joined, link, declared, performed⟩
      · obtain ⟨links, inStep, rest⟩ := ih faultlessBehind foundBehind
          { schema with fields := schema.fields ++ [written.field] }
        refine ⟨links, by simpa [plain] using inStep, ?_⟩
        rw [performed]
        simpa [plain] using rest
      · obtain ⟨links, inStep, rest⟩ := ih faultlessBehind foundBehind
          { schema with relations := schema.relations ++ [link] }
        refine ⟨link :: links, ?_, ?_⟩
        · rw [List.filter_cons_of_pos (by simpa using joined)]
          exact .cons declared inStep
        · rw [performed]
          simpa [joined] using rest

/-- Where no entry for the primary key is a fault, the only key becomes that of the schema. -/
theorem perform_keyEntries {size : Nat} (find : Path → Option (Fin size))
    {members : List MemberSyntax} {keys : List Call} (entries : KeyEntries members keys)
    (faultless : ∀ diagnostic, .fault diagnostic ∉ keys) {schema : Schema size}
    (keyless : schema.primaryKey = none)
    : ∃ key,
        (∀ column, key = some column
          ↔ ∃ written ∈ members, written.IsKey ∧ written.columnName = column)
        ∧ keys.foldlM (Call.perform find) schema = some { schema with primaryKey := key } := by
  cases entries with
  | none absent =>
      refine ⟨none, fun column => ⟨nofun, ?_⟩, by simp [← keyless]⟩
      rintro ⟨written, member, isKey, -⟩
      exact absurd isKey (absent written member)
  | @one before behind key isKey only =>
      refine ⟨some key.columnName, fun column => ⟨?_, ?_⟩, rfl⟩
      · rintro ⟨⟩
        exact ⟨key, by simp, isKey, rfl⟩
      · rintro ⟨written, member, isKeyToo, rfl⟩
        rcases List.mem_append.mp member with earlier | later
        · exact absurd isKeyToo (only written (List.mem_append_left _ earlier))
        · rcases List.mem_cons.mp later with rfl | further
          · rfl
          · exact absurd isKeyToo (only written (List.mem_append_right _ further))
  | @several before between behind first second isKey isKeyToo only =>
      exact absurd (by simp) (faultless ⟨.secondPrimaryKey, second.start⟩)

/-- The calls of a block without a fault make a schema, one part of the calls after another. -/
theorem Block.schema?_of_faultless {size : Nat} {find : Path → Option (Fin size)}
    (found : Block) (table : Option String)
    (faultless : ∀ diagnostic, .fault diagnostic ∉ found.calls table)
    (targets : ∀ written ∈ found.members, written.IsFound find)
    : ∃ key links,
        (∀ column,
            key = some column
              ↔ ∃ written ∈ found.members, written.IsKey ∧ written.columnName = column)
          ∧ List.Forall₂ (MemberSyntax.Links find) (found.members.filter (¬ ·.IsColumn)) links
          ∧ Expansion.schema? find ⟨found.type, found.calls table⟩
            = some
                ⟨found.type.name, table, key, (found.members.filter (·.IsColumn)).map (·.field),
                  links⟩ := by
  let named : Schema size := { name := found.type.name, tableName := table }
  have started
      : ([Call.new found.type.name] ++ (table.map Call.tableName).toList).foldlM
            (Call.perform find) { name := found.type.name }
          = some named := by
    cases table <;> rfl
  unfold Block.calls at faultless ⊢
  obtain ⟨key, isKey, keyed⟩ :=
    perform_keyEntries find (keyEntries_primaryKeyCalls found.members)
      (fun diagnostic member => faultless diagnostic
        (List.mem_append_left _ (List.mem_append_right _ member)))
      (rfl : named.primaryKey = none)
  obtain ⟨links, linked, performed⟩ :=
    perform_entries (forall₂_entry found.members)
      (fun diagnostic member => faultless diagnostic (List.mem_append_right _ member)) targets
      { named with primaryKey := key }
  refine ⟨key, links, isKey, linked, ?_⟩
  unfold Expansion.schema?
  rw [List.foldlM_append, List.foldlM_append, started, Option.bind_eq_bind, Option.bind_some,
    keyed, Option.bind_some, performed]
  rfl

-----------------------------------------------------------------------------------------
-- Declarations
-----------------------------------------------------------------------------------------

/-- The table name that some tokens give: a single string literal, or nothing at all. -/
inductive NamesTable : List Token → Option String → Prop
  | unnamed : NamesTable [] none
  | named {name spelling : String} {position : Position}
    : NamesTable [⟨.text name, spelling, position⟩] (some name)

theorem tableNameArgument_eq_ok_iff (given : List Token) (table : Option String)
    : tableNameArgument given = .ok table ↔ NamesTable given table := by
  constructor
  · intro success
    cases given with
    | nil =>
        cases success
        exact .unnamed
    | cons token rest =>
        change (readAll stringLiteral (token :: rest)).map some = _ at success
        cases read : readAll stringLiteral (token :: rest) with
        | error diagnostic =>
            rw [read] at success
            cases success
        | ok name =>
            rw [read] at success
            cases success
            obtain ⟨spelling, position, single⟩ := (readAll_stringLiteral_eq_ok_iff _ _).mp read
            rw [single]
            exact .named
  · intro names
    cases names with
    | unnamed => rfl
    | named => rfl

/-- A declaration has an expansion exactly if both of its texts have tokens and these can be read,
and that has the calls of its block.
-/
theorem expand_eq_ok_iff (argument text : String) (expansion : Expansion)
    : expand argument text = .ok expansion
      ↔ ∃ given content table found,
          tokens argument = some given ∧ tokens text = some content
            ∧ tableNameArgument given = .ok table ∧ readAll block content = .ok found
            ∧ expansion = ⟨found.type, found.calls table⟩ := by
  unfold expand
  cases tokens argument with
  | none => simp [throw, throwThe, MonadExceptOf.throw, bind, Except.bind]
  | some given =>
      cases tokens text with
      | none => simp [throw, throwThe, MonadExceptOf.throw, bind, Except.bind]
      | some content =>
          simp only [bind_eq_ok_iff, mapError_eq_ok_iff, Option.some.injEq, exists_eq_left',
            exists_and_left, pure, Except.pure, Except.ok.injEq]
          simp [eq_comm]

/-- An expansion describes a block and nothing else. The calls are the one for the type, the one
for the table name if there is one, the entry for the primary key, and one entry for each member
in the order of the block. If none of them is a fault, they make a schema with the fields of all
columns and the relations of all other members, in the same order.
-/
structure Expansion.DescribesBlock (expansion : Expansion) (content : List Token)
    (table : Option String) (block : Block) : Prop where
  implements : Implements content block.type
  type : expansion.type = block.type
  calls
    : ∃ (route : Route) (keys entries : List Call),
        block.type.IsReadAs route
          ∧ expansion.calls
            = [.new route.last.name] ++ (table.map Call.tableName).toList ++ keys ++ entries
          ∧ KeyEntries block.members keys
          ∧ List.Forall₂ MemberSyntax.Entry block.members entries
  schema
    : ∀ {size : Nat} (find : Path → Option (Fin size)),
        (∀ diagnostic, .fault diagnostic ∉ expansion.calls)
        → (∀ written ∈ block.members, written.IsFound find)
        → ∃ schema,
            expansion.schema? find = some schema ∧ schema.name = block.type.name
              ∧ schema.tableName = table
              ∧ (∀ column,
                  schema.primaryKey = some column
                    ↔ ∃ written ∈ block.members, written.IsKey ∧ written.columnName = column)
              ∧ schema.fields = (block.members.filter (·.IsColumn)).map (·.field)
              ∧ List.Forall₂ (MemberSyntax.Links find) (block.members.filter (¬ ·.IsColumn))
                  schema.relations

/-- Whatever is a declaration has an expansion, and that describes the block. -/
theorem expand_describes_block {argument text : String} {given content : List Token}
    {table : Option String} {found : Block} (argumentTokens : tokens argument = some given)
    (textTokens : tokens text = some content) (named : tableNameArgument given = .ok table)
    (read : readAll block content = .ok found)
    : NamesTable given table
      ∧ ∃ expansion,
          expand argument text = .ok expansion
          ∧ expansion.DescribesBlock content table found := by
  refine ⟨(tableNameArgument_eq_ok_iff given table).mp named, ?_⟩
  obtain ⟨implements, route, readAs⟩ := implements_of_readAll read
  have expanded : expand argument text = .ok ⟨found.type, found.calls table⟩ :=
    (expand_eq_ok_iff _ _ _).mpr
      ⟨given, content, table, found, argumentTokens, textTokens, named, read, rfl⟩
  have calls
      : found.calls table
          = [.new route.last.name] ++ (table.map Call.tableName).toList
            ++ primaryKeyCalls (faultless (found.members.map Member.ofSyntax))
            ++ (found.members.map Member.ofSyntax).map memberCall := by
    rw [← readAs.name_eq]
    rfl
  refine ⟨_, expanded, implements, rfl, ⟨route, _, _, readAs, calls, ?_, ?_⟩, ?_⟩
  · exact keyEntries_primaryKeyCalls found.members
  · exact forall₂_entry found.members
  · intro size find right targets
    obtain ⟨key, links, isKey, linked, described⟩ :=
      found.schema?_of_faultless table right targets
    exact ⟨_, described, rfl, rfl, isKey, rfl, linked⟩

/-- A declaration with a primary key and relations to two types of one name. -/
def userBlock : String :=
  "impl User {
    #[primary_key] fn id() -> Id;
    #[foreign(blog::Post(by) => Self)] fn posts() -> [Post];
    #[foreign(Self(last) => mail::Post)] fn letter() -> Post;
  }"

/-- Each of the types of one name has a schema of its own. -/
def findPost (path : Path) : Option (Fin 2) := ["blog::Post", "mail::Post"].finIdxOf? path.text

theorem expand_describes_block_of_users
    : ∃ content found expansion,
        tokens "\"user\"" = some [⟨.text "user", "\"user\"", ⟨1, 0⟩⟩]
          ∧ tokens userBlock = some content
          ∧ tableNameArgument [⟨.text "user", "\"user\"", ⟨1, 0⟩⟩] = .ok (some "user")
          ∧ readAll block content = .ok found
          ∧ expand "\"user\"" userBlock = .ok expansion
          ∧ expansion.DescribesBlock content (some "user") found
          ∧ expansion.schema? findPost
            = some
                ⟨"User", some "user", some "id", [⟨"id", "id"⟩],
                  [⟨"posts", .many, "by", "posts", false, 0⟩,
                    ⟨"letter", .one, "last", "letter", false, 1⟩]⟩ := by
  have argumentTokens : tokens "\"user\"" = some [⟨.text "user", "\"user\"", ⟨1, 0⟩⟩] := by
    decide +kernel
  have performed
      : (expand "\"user\"" userBlock).toOption.bind (·.schema? findPost)
          = some
              ⟨"User", some "user", some "id", [⟨"id", "id"⟩],
                [⟨"posts", .many, "by", "posts", false, 0⟩,
                  ⟨"letter", .one, "last", "letter", false, 1⟩]⟩ := by
    decide +kernel
  obtain ⟨expansion, expanded, made⟩ := Option.bind_eq_some_iff.mp performed
  have expanded := eq_ok_of_toOption expanded
  obtain ⟨given, content, table, found, sameTokens, textTokens, named, read, -⟩ :=
    (expand_eq_ok_iff _ _ _).mp expanded
  obtain rfl := Option.some.inj (sameTokens.symm.trans argumentTokens)
  obtain rfl : some "user" = table := Except.ok.inj named
  obtain ⟨-, described, expandedToo, describes⟩ :=
    expand_describes_block argumentTokens textTokens named read
  obtain rfl := Except.ok.inj (expanded.symm.trans expandedToo)
  exact ⟨content, found, expansion, argumentTokens, textTokens, named, read, expanded, describes,
    made⟩

end NestedSelect.Declaration
