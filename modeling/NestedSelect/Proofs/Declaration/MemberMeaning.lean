import Mathlib.Data.List.Induction
import NestedSelect.Proofs.Declaration.ReaderRuns
import NestedSelect.Proofs.Outcome
/-!
What an accepted member means, told from its attributes alone. Of several attributes of one name
the last one decides, and the order of attributes of different names has no influence.
-/

namespace NestedSelect.Declaration

-----------------------------------------------------------------------------------------
-- The last attribute of a name
-----------------------------------------------------------------------------------------

/-- The last one of some attributes with a name. -/
def lastNamed (name : String) (attributes : List Attribute) : Option Attribute :=
  (attributes.filter (·.name = some name)).getLast?

theorem lastNamed_append (name : String) (attributes : List Attribute) (added : Attribute)
    : lastNamed name (attributes ++ [added])
        = if added.name = some name then some added else lastNamed name attributes := by
  by_cases named : added.name = some name
  · simp [lastNamed, List.filter_append, named]
  · simp [lastNamed, List.filter_append, named]

theorem mem_of_lastNamed {name : String} {attributes : List Attribute} {given : Attribute}
    (last : lastNamed name attributes = some given)
    : given ∈ attributes ∧ given.name = some name := by
  have member := List.mem_of_getLast? last
  simpa using member

/-- The text in an attribute, if all that it has is a string literal behind an equals sign. -/
def Attribute.text? (given : Attribute) : Option (String × Position) :=
  match given.tokens with
  | [⟨.mark '=' _, _, _⟩, ⟨.text value, _, position⟩] => some (value, position)
  | _ => none

/-- The foreign key that an attribute describes, if it does describe one. -/
def Attribute.foreignKey? (given : Attribute) : Option ForeignKey :=
  (foreignKey given.tokens).toOption

/-- An attribute is one of those that a member may have, and has what it needs. -/
def Attribute.IsFit (given : Attribute) : Prop :=
  match given.name with
  | some "doc" => True
  | some "primary_key" => given.tokens = []
  | some "embed" => given.tokens = []
  | some "column" => ∃ found, given.text? = some found
  | some "json" => ∃ found, given.text? = some found
  | some "foreign" => ∃ key, given.foreignKey? = some key
  | _ => False

/-- What the last attribute of each name says. -/
def Markings.last (attributes : List Attribute) : Markings where
  primaryKey := (lastNamed "primary_key" attributes).map (·.position)
  column := (lastNamed "column" attributes).bind (·.text?)
  jsonKey := ((lastNamed "json" attributes).bind (·.text?)).map (·.1)
  foreign := (lastNamed "foreign" attributes).bind (·.foreignKey?)
  embed := (lastNamed "embed" attributes).map (·.position)

theorem flag_eq_ok_iff (tokens : List Token) : flag tokens = .ok () ↔ tokens = [] := by
  cases tokens with
  | nil => exact ⟨fun _ => rfl, fun _ => rfl⟩
  | cons token rest => exact ⟨nofun, nofun⟩

theorem Attribute.readAll_textArgument_eq_ok_iff (given : Attribute) (found : String × Position)
    : Reader.readAll textArgument given.tokens = .ok found ↔ given.text? = some found := by
  obtain ⟨text, position⟩ := found
  rw [Declaration.readAll_textArgument_eq_ok_iff]
  unfold text?
  constructor
  · rintro ⟨joint, sign, equals, spelling, same⟩
    simp only [same]
  · intro found
    split at found
    case h_1 joint sign equals value spelling place same =>
      cases found
      exact ⟨joint, sign, equals, spelling, same⟩
    case h_2 => cases found

theorem Attribute.foreignKey_eq_ok_iff (given : Attribute) (key : ForeignKey)
    : foreignKey given.tokens = .ok key ↔ given.foreignKey? = some key := by
  unfold foreignKey?
  cases foreignKey given.tokens with
  | error diagnostic => exact ⟨nofun, nofun⟩
  | ok found => simp [Except.toOption]

/-- A fit attribute that comes last decides what its name says. -/
theorem Markings.add_last_of_fit {added : Attribute} (fit : added.IsFit)
    (attributes : List Attribute)
    : (Markings.last attributes).add added = .ok (.last (attributes ++ [added])) := by
  have last (name : String) := lastNamed_append name attributes added
  unfold Markings.add
  split
  case h_1 named => simp [Markings.last, last, named]
  case h_2 named | h_3 named =>
    rw [Attribute.IsFit, named] at fit
    rw [(flag_eq_ok_iff _).mpr fit]
    simp [Markings.last, last, named, bind, Except.bind, pure, Except.pure]
  case h_4 named | h_5 named =>
    rw [Attribute.IsFit, named] at fit
    obtain ⟨found, told⟩ := fit
    rw [(added.readAll_textArgument_eq_ok_iff _).mpr told]
    simp [Markings.last, last, named, told, bind, Except.bind, pure, Except.pure]
  case h_6 named =>
    rw [Attribute.IsFit, named] at fit
    obtain ⟨key, told⟩ := fit
    rw [(added.foreignKey_eq_ok_iff _).mpr told]
    simp [Markings.last, last, named, told, bind, Except.bind, pure, Except.pure]
  case h_7 =>
    unfold Attribute.IsFit at fit
    split at fit <;> simp_all

/-- Only a fit attribute can be taken into account. -/
theorem Markings.fit_of_add {added : Attribute} {markings after : Markings}
    (success : markings.add added = .ok after)
    : added.IsFit := by
  unfold Markings.add at success
  split at success
  case h_1 named =>
    rw [Attribute.IsFit, named]
    trivial
  case h_2 named | h_3 named =>
    obtain ⟨⟨⟩, flagged, -⟩ := (bind_eq_ok_iff _ _ _).mp success
    rw [Attribute.IsFit, named]
    exact (flag_eq_ok_iff _).mp flagged
  case h_4 named | h_5 named =>
    obtain ⟨found, told, -⟩ := (bind_eq_ok_iff _ _ _).mp success
    rw [Attribute.IsFit, named]
    exact ⟨found, (added.readAll_textArgument_eq_ok_iff _).mp told⟩
  case h_6 named =>
    obtain ⟨key, told, -⟩ := (bind_eq_ok_iff _ _ _).mp success
    rw [Attribute.IsFit, named]
    exact ⟨key, (added.foreignKey_eq_ok_iff _).mp told⟩
  case h_7 => cases success

/-- Attributes are accepted together exactly if each of them is fit, and then the last one of each
name decides, by induction from the last attribute on.
-/
theorem Markings.ofAttributes_eq_ok_iff (attributes : List Attribute) (markings : Markings)
    : Markings.ofAttributes attributes = .ok markings
      ↔ (∀ given ∈ attributes, given.IsFit) ∧ markings = .last attributes := by
  induction attributes using List.reverseRecOn generalizing markings with
  | nil =>
      change Except.ok _ = Except.ok _ ↔ _
      simp [Markings.last, lastNamed, eq_comm]
  | append_singleton attributes added ih =>
      have last : Markings.ofAttributes (attributes ++ [added])
          = Markings.ofAttributes attributes >>= fun before => before.add added := by
        unfold Markings.ofAttributes
        rw [List.foldlM_append]
        simp
      rw [last, bind_eq_ok_iff]
      constructor
      · rintro ⟨before, success, taken⟩
        obtain ⟨fits, rfl⟩ := (ih before).mp success
        have fit := Markings.fit_of_add taken
        rw [Markings.add_last_of_fit fit] at taken
        refine ⟨?_, (Except.ok.inj taken).symm⟩
        intro given member
        rcases List.mem_append.mp member with earlier | final
        · exact fits given earlier
        · rw [List.mem_singleton.mp final]
          exact fit
      · rintro ⟨fits, rfl⟩
        have earlier := (ih _).mpr ⟨fun given member => fits given (by simp [member]), rfl⟩
        exact ⟨_, earlier, Markings.add_last_of_fit (fits added (by simp)) attributes⟩

-----------------------------------------------------------------------------------------
-- Accepted members
-----------------------------------------------------------------------------------------

/-- A member is accepted exactly if its attributes are fit, it has no arguments, and its return
type and the last attribute of each name go together.
-/
theorem Member.ofSyntax_eq_ok_iff (written : MemberSyntax) (member : Member)
    : Member.ofSyntax written = .ok member
      ↔ (∀ given ∈ written.attributes, given.IsFit) ∧ written.firstArgument = none
        ∧ ∃ returns kind,
            quantified written.start written.returns = .ok returns
              ∧ (Markings.last written.attributes).kind written.name returns = .ok kind
              ∧ (Markings.last written.attributes).checkKind kind = .ok ()
              ∧ member
                = ⟨written.start, written.name, (Markings.last written.attributes).jsonKey,
                    kind⟩ := by
  unfold Member.ofSyntax
  rw [bind_eq_ok_iff]
  simp only [Markings.ofAttributes_eq_ok_iff]
  constructor
  · rintro ⟨markings, ⟨fits, rfl⟩, success⟩
    cases argument : written.firstArgument with
    | some position =>
        rw [argument] at success
        cases success
    | none =>
        rw [argument] at success
        simp only [bind_eq_ok_iff] at success
        obtain ⟨returns, quantity, kind, fitting, ⟨⟩, checked, made⟩ := success
        exact ⟨fits, rfl, returns, kind, quantity, fitting, checked, (Except.ok.inj made).symm⟩
  · rintro ⟨fits, argument, returns, kind, quantity, fitting, checked, rfl⟩
    refine ⟨_, ⟨fits, rfl⟩, ?_⟩
    rw [argument]
    simp only [bind_eq_ok_iff]
    exact ⟨returns, quantity, kind, fitting, (), checked, rfl⟩

namespace MemberSyntax

variable (written : MemberSyntax)

/-- Some attribute of the member has a name. -/
def IsMarked (name : String) : Prop :=
  ∃ given ∈ written.attributes, given.name = some name

instance (name : String) : Decidable (written.IsMarked name) :=
  inferInstanceAs (Decidable (∃ given ∈ written.attributes, given.name = some name))

/-- The text that the last attribute of a name gives. -/
def text? (name : String) : Option String :=
  ((lastNamed name written.attributes).bind (·.text?)).map (·.1)

/-- The column that the member is if it is one. -/
def columnName : String := (written.text? "column").getD written.name

/-- The key under which the member is found in the JSON object of its row. -/
def jsonKey : String := (written.text? "json").getD written.name

/-- The foreign key that the last attribute for one describes. -/
def foreignKey? : Option ForeignKey :=
  (lastNamed "foreign" written.attributes).bind (·.foreignKey?)

/-- The path that is the return type of the member. -/
def rowType? : Option Path :=
  match written.returns with
  | some (.named path _) => some path
  | _ => none

/-- A member without attributes that make it something else is a column. -/
def IsColumn : Prop := ¬ written.IsMarked "foreign" ∧ ¬ written.IsMarked "embed"

instance : Decidable written.IsColumn := inferInstanceAs (Decidable (_ ∧ _))

/-- What the member means when it is accepted. -/
inductive Means : Member → Prop
  | column (plain : written.IsColumn)
    : Means ⟨written.start, written.name, written.text? "json",
        .column written.columnName (written.IsMarked "primary_key")⟩
  | foreign {key : ForeignKey} (described : written.foreignKey? = some key)
    (joined : ¬ written.IsMarked "embed")
    : Means ⟨written.start, written.name, written.text? "json", .foreign key⟩
  | embed {path : Path} (own : ¬ written.IsMarked "foreign") (taken : written.IsMarked "embed")
    (row : written.rowType? = some path)
    : Means ⟨written.start, written.name, written.text? "json", .embed path⟩

variable {written}

theorem lastNamed_eq_none_iff (name : String)
    : lastNamed name written.attributes = none ↔ ¬ written.IsMarked name := by
  simp [lastNamed, IsMarked]

theorem isSome_lastNamed (name : String)
    : (lastNamed name written.attributes).isSome = decide (written.IsMarked name) := by
  by_cases marked : written.IsMarked name
  · cases last : lastNamed name written.attributes with
    | none => exact absurd marked ((lastNamed_eq_none_iff name).mp last)
    | some given => simp [marked]
  · rw [(lastNamed_eq_none_iff name).mpr marked]
    simp [marked]

/-- A return type of a single row is a path. -/
theorem rowType?_of_quantified {path : Path}
    (quantity : quantified written.start written.returns = .ok (.unit path))
    : written.rowType? = some path := by
  unfold quantified at quantity
  unfold rowType?
  split at quantity
  case h_1 => cases quantity
  case h_2 position element _ => cases element <;> cases quantity
  case h_3 shape _ returns =>
    rw [returns]
    cases shape <;> cases quantity
    rfl

/-- With fit attributes, a member has no foreign key only where no attribute is for one. -/
theorem foreignKey?_eq_none (fits : ∀ given ∈ written.attributes, given.IsFit)
    (none : written.foreignKey? = none)
    : ¬ written.IsMarked "foreign" := by
  rw [← lastNamed_eq_none_iff]
  cases last : lastNamed "foreign" written.attributes with
  | none => rfl
  | some given =>
      obtain ⟨member, named⟩ := mem_of_lastNamed last
      have fit := fits given member
      unfold Attribute.IsFit at fit
      rw [named] at fit
      obtain ⟨key, described⟩ := fit
      rw [foreignKey?, last, Option.bind_some, described] at none
      cases none

/-- What a member with fit attributes means follows from these and from its return type, if they go
together.
-/
theorem means_of_kind (fits : ∀ given ∈ written.attributes, given.IsFit)
    {returns : Quantified} (quantity : quantified written.start written.returns = .ok returns)
    {kind : MemberKind}
    (fitting : (Markings.last written.attributes).kind written.name returns = .ok kind)
    : written.Means ⟨written.start, written.name, written.text? "json", kind⟩ := by
  have unmarked {name : String}
      (absent : (lastNamed name written.attributes).map (·.position) = none)
      : ¬ written.IsMarked name :=
    (lastNamed_eq_none_iff name).mp (Option.map_eq_none_iff.mp absent)
  have marked {name : String} {position : Position}
      (found : (lastNamed name written.attributes).map (·.position) = some position)
      : written.IsMarked name := by
    obtain ⟨given, last, -⟩ := Option.map_eq_some_iff.mp found
    exact ⟨given, mem_of_lastNamed last⟩
  unfold Markings.kind at fitting
  split at fitting
  case h_1 => cases fitting
  case h_2 path own taken =>
    cases fitting
    exact .embed (foreignKey?_eq_none fits own) (marked taken) (rowType?_of_quantified quantity)
  case h_3 => cases fitting
  case h_4 key path described joined =>
    split at fitting
    · cases fitting
    · cases fitting
      exact .foreign described (unmarked joined)
  case h_5 key path described joined =>
    split at fitting
    · cases fitting
      exact .foreign described (unmarked joined)
    · cases fitting
  case h_6 => cases fitting
  case h_7 path own joined =>
    cases fitting
    change written.Means ⟨_, _, _, .column _ (Option.isSome (Option.map _ _))⟩
    have plain : written.IsColumn := ⟨foreignKey?_eq_none fits own, unmarked joined⟩
    rw [Option.isSome_map, isSome_lastNamed]
    exact .column plain

/-- What an accepted member means follows from its attributes and its return type. -/
theorem means_of_ofSyntax {member : Member} (accepted : Member.ofSyntax written = .ok member)
    : written.Means member := by
  obtain ⟨fits, -, returns, kind, quantity, fitting, -, rfl⟩ :=
    (Member.ofSyntax_eq_ok_iff written member).mp accepted
  exact means_of_kind fits quantity fitting

end MemberSyntax

end NestedSelect.Declaration
