import NestedSelect.Proofs.Declaration.ExpandedBlock
/-!
Everything that is wrong with a member, in the order in which it is looked for. A member without
faults is one as it is allowed, and has the call that its attributes ask for; any other member is
reported with the first of its faults. Allowed is more than what is documented: attributes that are
no doc comments pass for them.
-/

namespace NestedSelect.Declaration

open Reader

-----------------------------------------------------------------------------------------
-- Faults
-----------------------------------------------------------------------------------------

/-- What is wrong where something cannot be read. -/
def faultOf {α : Type} : Except Diagnostic α → List Diagnostic
  | .ok _ => []
  | .error diagnostic => [diagnostic]

/-- A flag has no argument. -/
def flagFaults (tokens : List Token) : List Diagnostic :=
  tokens.head?.toList.map fun token => ⟨.argumentsGiven, token.position⟩

/-- What is wrong with an attribute of a member: a flag with an argument, an argument that cannot be
read, or a name that no attribute has.
-/
def Attribute.faults (given : Attribute) : List Diagnostic :=
  match given.name with
  | some "doc" => []
  | some "primary_key" => flagFaults given.tokens
  | some "embed" => flagFaults given.tokens
  | some "column" => faultOf (readAll textArgument given.tokens)
  | some "json" => faultOf (readAll textArgument given.tokens)
  | some "foreign" => faultOf (foreignKey given.tokens)
  | _ => [⟨.unrecognizedAttribute, given.position⟩]

/-- A type that is no path is wrong where a path is needed. -/
def TypeShape.pathFaults : TypeShape → List Diagnostic
  | .named .. => []
  | shape => [⟨.notAPath, shape.position⟩]

namespace MemberSyntax

variable (written : MemberSyntax)

/-- A member has no arguments. -/
def argumentFaults : List Diagnostic :=
  written.firstArgument.toList.map fun position => ⟨.argumentsGiven, position⟩

/-- A member returns a path or an array of a path. -/
def returnFaults : List Diagnostic :=
  match written.returns with
  | none => [⟨.returnTypeMissing, written.start⟩]
  | some (.slice _ element) => element.pathFaults
  | some shape => shape.pathFaults

/-- A member is not embedded and joined at once. -/
def conflictFaults : List Diagnostic :=
  match lastNamed "foreign" written.attributes, lastNamed "embed" written.attributes with
  | some _, some given => [⟨.embedAndForeign, given.position⟩]
  | _, _ => []

/-- The return type of a member is an array. -/
def isSlice : Bool :=
  match written.returns with
  | some (.slice ..) => true
  | _ => false

/-- Where the type of a row stands. -/
def rowPosition : Position :=
  match written.returns with
  | some (.slice _ element) => element.position
  | some shape => shape.position
  | none => written.start

/-- How the return type of a member and what the member is do not go together. -/
def quantityFault? : Option Fault :=
  match written.foreignKey?, written.isSlice with
  | some key, true => if key.referencesSelf then none else some .sliceGiven
  | some key, false => if key.referencesSelf then some .sliceMissing else none
  | none, true =>
    if (lastNamed "embed" written.attributes).isSome then some .embeddedSlice
    else some .columnSlice
  | none, false => none

def quantityFaults : List Diagnostic :=
  written.quantityFault?.toList.map fun fault => ⟨fault, written.rowPosition⟩

/-- A member that is no column is neither a primary key nor renamed. -/
def columnFaults : List Diagnostic :=
  if written.IsColumn then []
  else
    ((lastNamed "primary_key" written.attributes).toList.map fun given =>
        ⟨.keyNotAColumn, given.position⟩)
      ++ ((lastNamed "column" written.attributes).bind (·.text?)).toList.map fun found =>
        ⟨.renamedNotAColumn, found.2⟩

/-- All that is wrong with a member, in the order in which it is looked for. -/
def faults : List Diagnostic :=
  written.attributes.flatMap (·.faults)
    ++ (written.argumentFaults
      ++ (written.returnFaults
        ++ ((written.conflictFaults ++ written.quantityFaults) ++ written.columnFaults)))

end MemberSyntax

-----------------------------------------------------------------------------------------
-- The first fault
-----------------------------------------------------------------------------------------

theorem reports_faultOf {α : Type} (outcome : Except Diagnostic α)
    : Reports outcome (faultOf outcome) := by
  cases outcome <;> rfl

theorem reports_flag (tokens : List Token) : Reports (flag tokens) (flagFaults tokens) := by
  cases tokens <;> rfl

/-- Taking an attribute into account fails with what is wrong with it. -/
theorem Markings.reports_add (markings : Markings) (added : Attribute)
    : Reports (markings.add added) added.faults := by
  unfold Markings.add
  split
  case h_1 named =>
    rw [Attribute.faults, named]
    rfl
  case h_2 named | h_3 named =>
    rw [Attribute.faults, named]
    exact (reports_flag added.tokens).bind_ok fun _ => ⟨_, rfl⟩
  case h_4 named | h_5 named | h_6 named =>
    rw [Attribute.faults, named]
    exact (reports_faultOf _).bind_ok fun _ => ⟨_, rfl⟩
  case h_7 =>
    unfold Attribute.faults
    split <;> simp_all [Reports]

/-- Attributes are looked at from the first one on, by induction over those that are left. -/
theorem Markings.reports_ofAttributes (attributes : List Attribute)
    : Reports (Markings.ofAttributes attributes) (attributes.flatMap (·.faults)) := by
  unfold Markings.ofAttributes
  generalize ({} : Markings) = markings
  induction attributes generalizing markings with
  | nil => rfl
  | cons given rest ih =>
      rw [List.foldlM_cons, List.flatMap_cons]
      exact (markings.reports_add given).bind fun after _ => ih after

namespace MemberSyntax

variable {written : MemberSyntax}

theorem reports_quantified
    : Reports (quantified written.start written.returns) written.returnFaults := by
  unfold returnFaults
  cases returns : written.returns with
  | none => rfl
  | some shape =>
      cases shape with
      | slice position element => cases element <;> rfl
      | _ => rfl

/-- A return type that is right is the path of a row, as an array or not. -/
theorem of_quantified {returns : Quantified}
    (quantity : quantified written.start written.returns = .ok returns)
    : ∃ path : Path,
        written.rowPosition = path.position
          ∧ returns = if written.isSlice then .slice path else .unit path := by
  unfold rowPosition isSlice
  unfold quantified at quantity
  split at quantity
  case h_1 => cases quantity
  case h_2 position element same =>
    rw [same]
    cases element <;> cases quantity
    exact ⟨_, rfl, rfl⟩
  case h_3 shape other same =>
    rw [same]
    cases shape <;> cases quantity
    exact ⟨_, rfl, rfl⟩

/-- A member with fit attributes is made what its last attributes say, where they and the return
type go together.
-/
theorem reports_kind (fits : ∀ given ∈ written.attributes, given.IsFit) {returns : Quantified}
    (quantity : quantified written.start written.returns = .ok returns)
    : Reports ((Markings.last written.attributes).kind written.name returns)
        (written.conflictFaults ++ written.quantityFaults) := by
  obtain ⟨path, position, rfl⟩ := of_quantified quantity
  have foreign : (Markings.last written.attributes).foreign = written.foreignKey? := rfl
  have embed
      : (Markings.last written.attributes).embed
          = (lastNamed "embed" written.attributes).map (·.position) := rfl
  unfold Markings.kind conflictFaults quantityFaults quantityFault?
  rw [foreign, embed, position]
  cases described : written.foreignKey? with
  | some key =>
      obtain ⟨given, last, -⟩ := Option.bind_eq_some_iff.mp described
      rw [last]
      cases lastNamed "embed" written.attributes with
      | some other => rfl
      | none =>
          cases written.isSlice <;> cases toSelf : key.referencesSelf <;> simp [Reports, toSelf]
  | none =>
      -- A fit attribute of this name has a foreign key, so there is no such attribute.
      rw [(lastNamed_eq_none_iff "foreign").mpr (foreignKey?_eq_none fits described)]
      cases lastNamed "embed" written.attributes with
      | some other => cases written.isSlice <;> rfl
      | none => cases written.isSlice <;> rfl

/-- What a member with fit attributes stands for is a column exactly if the member is one. -/
theorem isColumn_of_kind (fits : ∀ given ∈ written.attributes, given.IsFit)
    {returns : Quantified} (quantity : quantified written.start written.returns = .ok returns)
    {kind : MemberKind}
    (fitting : (Markings.last written.attributes).kind written.name returns = .ok kind)
    : kind.isColumn = decide written.IsColumn := by
  cases means_of_kind fits quantity fitting with
  | column plain => exact (decide_eq_true plain).symm
  | foreign described joined =>
      exact (decide_eq_false fun plain => plain.1 (isMarked_of_foreignKey? described)).symm
  | embed own taken row => exact (decide_eq_false fun plain => plain.2 taken).symm

/-- What is no column has no attributes of a column. -/
theorem reports_checkKind {kind : MemberKind} (same : kind.isColumn = decide written.IsColumn)
    : Reports ((Markings.last written.attributes).checkKind kind) written.columnFaults := by
  unfold Markings.checkKind columnFaults
  rw [same]
  by_cases plain : written.IsColumn
  · simp [plain, Reports]
  · simp only [plain, decide_false, Bool.false_eq_true, if_false]
    unfold Markings.last
    cases lastNamed "primary_key" written.attributes with
    | some given => rfl
    | none => cases (lastNamed "column" written.attributes).bind (·.text?) <;> rfl

/-- A member is rejected with the first of its faults, and accepted if it has none. -/
theorem reports_ofSyntax (written : MemberSyntax)
    : Reports (Member.ofSyntax written) written.faults := by
  unfold Member.ofSyntax faults
  refine (Markings.reports_ofAttributes written.attributes).bind fun markings success => ?_
  obtain ⟨fits, rfl⟩ := (Markings.ofAttributes_eq_ok_iff _ _).mp success
  unfold argumentFaults
  cases written.firstArgument with
  | some position => rfl
  | none =>
      refine reports_quantified.bind fun returns quantity => ?_
      refine (reports_kind fits quantity).bind fun kind fitting => ?_
      exact (reports_checkKind (isColumn_of_kind fits quantity fitting)).bind_ok fun _ => ⟨_, rfl⟩

end MemberSyntax

-----------------------------------------------------------------------------------------
-- Members as they are allowed
-----------------------------------------------------------------------------------------

/-- The arrow `Self(column) => Other`: the declared table references another one. -/
def Arrow.fromSelf (column : String) (other : Path) : Arrow :=
  ⟨⟨.self, [column]⟩, ⟨.other other, []⟩⟩

/-- The arrow `Other(column) => Self`: another table references the declared one. -/
def Arrow.toSelf (other : Path) (column : String) : Arrow :=
  ⟨⟨.other other, [column]⟩, ⟨.self, []⟩⟩

namespace Attribute

/-- The argument of an attribute is an arrow in parentheses. -/
def Draws (given : Attribute) (drawn : Arrow) : Prop :=
  readAll (group .parenthesis arrow) given.tokens = .ok drawn

/-- An attribute as a member may have it. Whatever is named `doc` says nothing about the member. -/
inductive IsAllowed (given : Attribute) : Prop
  | doc (named : given.name = some "doc")
  /-- A flag has nothing behind its name. -/
  | flag (named : given.name = some "primary_key" ∨ given.name = some "embed")
    (bare : given.tokens = [])
  /-- A text stands alone behind an equals sign. -/
  | text {found : String × Position}
    (named : given.name = some "column" ∨ given.name = some "json")
    (told : given.text? = some found)
  /-- An arrow leads from the declared table to another one, or the other way. -/
  | arrow {other : Path} {column : String} (named : given.name = some "foreign")
    (drawn : given.Draws (.fromSelf column other) ∨ given.Draws (.toSelf other column))

theorem foreignKey?_eq_some_iff (given : Attribute) (key : ForeignKey)
    : given.foreignKey? = some key
      ↔ given.Draws
          (if key.referencesSelf then .toSelf key.other key.column
            else .fromSelf key.column key.other) := by
  rw [← given.foreignKey_eq_ok_iff, Declaration.foreignKey_eq_ok_iff]
  simp only [Arrow.foreignKey_eq_ok_iff]
  constructor
  · rintro ⟨drawn, reads, rfl⟩
    exact reads
  · exact fun reads => ⟨_, reads, rfl⟩

theorem isAllowed_iff (given : Attribute) : given.IsAllowed ↔ given.IsFit := by
  constructor
  · intro documented
    unfold IsFit
    cases documented with
    | doc named => rw [named]; trivial
    | flag named bare => rcases named with named | named <;> rw [named] <;> exact bare
    | text named told => rcases named with named | named <;> rw [named] <;> exact ⟨_, told⟩
    | @arrow other column named drawn =>
        rw [named]
        rcases drawn with self | referenced
        · exact ⟨⟨other, column, false⟩, (given.foreignKey?_eq_some_iff _).mpr self⟩
        · exact ⟨⟨other, column, true⟩, (given.foreignKey?_eq_some_iff _).mpr referenced⟩
  · intro fit
    unfold IsFit at fit
    split at fit
    case h_1 named => exact .doc named
    case h_2 named => exact .flag (.inl named) fit
    case h_3 named => exact .flag (.inr named) fit
    case h_4 named => exact .text (.inl named) fit.choose_spec
    case h_5 named => exact .text (.inr named) fit.choose_spec
    case h_6 named =>
      obtain ⟨⟨other, column, _ | _⟩, told⟩ := fit
      · exact .arrow named (.inl ((given.foreignKey?_eq_some_iff _).mp told))
      · exact .arrow named (.inr ((given.foreignKey?_eq_some_iff _).mp told))
    case h_7 => cases fit

/-- Nothing is wrong with an attribute exactly if a member may have it. -/
theorem faults_eq_nil_iff (given : Attribute) : given.faults = [] ↔ given.IsAllowed := by
  -- What is wrong with an attribute does not depend on those before it.
  rw [isAllowed_iff, ← ((Markings.last []).reports_add given).exists_ok_iff]
  constructor
  · rintro ⟨after, taken⟩
    exact Markings.fit_of_add taken
  · exact fun fit => ⟨_, Markings.add_last_of_fit fit []⟩

end Attribute

namespace MemberSyntax

variable (written : MemberSyntax)

/-- The return type of a member is a path, or an array of one. -/
def ReturnsPath : Prop :=
  ∃ path applied,
    written.returns = some (.named path applied)
      ∨ ∃ position, written.returns = some (.slice position (.named path applied))

/-- The last arrow of a member leads from another table to the declared one. -/
def IsReferenced : Prop :=
  ∃ given other column,
    lastNamed "foreign" written.attributes = some given ∧ given.Draws (.toSelf other column)

/-- A member as it is allowed. -/
structure IsAllowed : Prop where
  attributes : ∀ given ∈ written.attributes, given.IsAllowed
  /-- There are no arguments, and no dots behind them. -/
  arguments : written.firstArgument = none ∧ written.dots = none
  returns : written.ReturnsPath
  apart : ¬ (written.IsMarked "embed" ∧ written.IsMarked "foreign")
  /-- Only where another table references this one there is any number of rows. -/
  slice : written.isSlice ↔ written.IsReferenced
  /-- Only columns are primary keys or renamed. -/
  columns : written.IsMarked "primary_key" ∨ written.IsMarked "column" → written.IsColumn

/-- Dots stand where arguments would, and nothing else. -/
def HasOnlyDots : Prop :=
  written.firstArgument = none ∧ written.dots.isSome

/-- The call that a member asks for by its attributes and its return type. -/
inductive Yields : Call → Prop
  | embed {path : Path} (taken : written.IsMarked "embed") (row : written.rowType? = some path)
    : Yields (.embed written.name path (written.text? "json"))
  | many {given : Attribute} {other : Path} {column : String}
    (joined : ¬ written.IsMarked "embed")
    (last : lastNamed "foreign" written.attributes = some given)
    (drawn : given.Draws (.toSelf other column))
    : Yields (.relation .many written.name column other (written.text? "json"))
  | one {given : Attribute} {other : Path} {column : String}
    (joined : ¬ written.IsMarked "embed")
    (last : lastNamed "foreign" written.attributes = some given)
    (drawn : given.Draws (.fromSelf column other))
    : Yields (.relation .one written.name column other (written.text? "json"))
  | field (plain : written.IsColumn) : Yields (.field written.columnName written.jsonKey)

variable {written}

theorem returnFaults_eq_nil_iff : written.returnFaults = [] ↔ written.ReturnsPath := by
  unfold returnFaults ReturnsPath
  cases written.returns with
  | none => simp
  | some shape =>
      cases shape with
      | slice position element => cases element <;> simp [TypeShape.pathFaults]
      | _ => simp [TypeShape.pathFaults]

theorem conflictFaults_eq_nil_iff
    : written.conflictFaults = [] ↔ ¬ (written.IsMarked "embed" ∧ written.IsMarked "foreign") := by
  rw [not_and_or, ← lastNamed_eq_none_iff, ← lastNamed_eq_none_iff]
  unfold conflictFaults
  cases lastNamed "foreign" written.attributes with
  | none => simp
  | some given => cases lastNamed "embed" written.attributes <;> simp

theorem isReferenced_iff
    : written.IsReferenced ↔ ∃ key, written.foreignKey? = some key ∧ key.referencesSelf = true := by
  unfold IsReferenced foreignKey?
  constructor
  · rintro ⟨given, other, column, last, drawn⟩
    refine ⟨⟨other, column, true⟩, ?_, rfl⟩
    rw [last, Option.bind_some]
    exact (given.foreignKey?_eq_some_iff _).mpr drawn
  · rintro ⟨⟨other, column, _⟩, described, rfl⟩
    obtain ⟨given, last, told⟩ := Option.bind_eq_some_iff.mp described
    exact ⟨given, other, column, last, (given.foreignKey?_eq_some_iff _).mp told⟩

theorem quantityFaults_eq_nil_iff
    : written.quantityFaults = [] ↔ (written.isSlice ↔ written.IsReferenced) := by
  rw [isReferenced_iff]
  unfold quantityFaults quantityFault?
  cases written.foreignKey? with
  | none =>
      cases written.isSlice
      · simp
      · cases lastNamed "embed" written.attributes <;> simp
  | some key =>
      cases written.isSlice <;> cases toSelf : key.referencesSelf <;> simp [toSelf]

theorem columnFaults_eq_nil_iff (fits : ∀ given ∈ written.attributes, given.IsFit)
    : written.columnFaults = []
      ↔ (written.IsMarked "primary_key" ∨ written.IsMarked "column" → written.IsColumn) := by
  have renamed
      : (lastNamed "column" written.attributes).bind (·.text?) = none
        ↔ ¬ written.IsMarked "column" := by
    rw [← lastNamed_eq_none_iff]
    cases last : lastNamed "column" written.attributes with
    | none => simp
    | some given =>
        obtain ⟨inside, named⟩ := mem_of_lastNamed last
        have fit := fits given inside
        unfold Attribute.IsFit at fit
        rw [named] at fit
        obtain ⟨found, told⟩ := fit
        simp [told]
  unfold columnFaults
  by_cases plain : written.IsColumn
  · simp [plain]
  · simp [plain, renamed, lastNamed_eq_none_iff]

/-- Nothing is found to be wrong with a member exactly if it is allowed, unless dots alone stand
where arguments would.
-/
theorem faults_eq_nil_iff
    (plain : written.HasOnlyDots → ∃ given ∈ written.attributes, ¬ given.IsAllowed)
    : written.faults = [] ↔ written.IsAllowed := by
  unfold faults argumentFaults
  simp only [List.append_eq_nil_iff, List.flatMap_eq_nil_iff, List.map_eq_nil_iff,
    Option.toList_eq_nil_iff, Attribute.faults_eq_nil_iff, returnFaults_eq_nil_iff,
    conflictFaults_eq_nil_iff, quantityFaults_eq_nil_iff]
  constructor
  · rintro ⟨attributes, arguments, returns, ⟨apart, slice⟩, columns⟩
    have fits := fun given inside => (Attribute.isAllowed_iff given).mp (attributes given inside)
    have dots : written.dots = none := by
      by_contra present
      obtain ⟨given, inside, wrong⟩ := plain ⟨arguments, Option.isSome_iff_ne_none.mpr present⟩
      exact wrong (attributes given inside)
    exact ⟨attributes, ⟨arguments, dots⟩, returns, apart, slice,
      (columnFaults_eq_nil_iff fits).mp columns⟩
  · rintro ⟨attributes, ⟨arguments, -⟩, returns, apart, slice, columns⟩
    have fits := fun given inside => (Attribute.isAllowed_iff given).mp (attributes given inside)
    exact ⟨attributes, arguments, returns, ⟨apart, slice⟩,
      (columnFaults_eq_nil_iff fits).mpr columns⟩

/-- The last arrow of a member is one arrow only. -/
theorem drawn_eq {given other : Attribute} {first second : Arrow}
    (last : lastNamed "foreign" written.attributes = some given) (drawn : given.Draws first)
    (same : lastNamed "foreign" written.attributes = some other) (drawnToo : other.Draws second)
    : first = second := by
  obtain rfl := Option.some.inj (last.symm.trans same)
  exact Except.ok.inj (drawn.symm.trans drawnToo)

/-- A member asks for one call only. -/
theorem Yields.unique {call other : Call} (first : written.Yields call)
    (second : written.Yields other)
    : call = other := by
  have marked {given : Attribute} (last : lastNamed "foreign" written.attributes = some given)
      : written.IsMarked "foreign" := ⟨given, mem_of_lastNamed last⟩
  cases first with
  | embed taken row =>
      cases second with
      | embed _ same => rw [Option.some.inj (row.symm.trans same)]
      | many joined | one joined => exact absurd taken joined
      | field plain => exact absurd taken plain.2
  | many joined last drawn =>
      cases second with
      | embed taken => exact absurd taken joined
      | many _ same drawnToo =>
          cases drawn_eq last drawn same drawnToo
          rfl
      | one _ same drawnToo => cases drawn_eq last drawn same drawnToo
      | field plain => exact absurd (marked last) plain.1
  | one joined last drawn =>
      cases second with
      | embed taken => exact absurd taken joined
      | many _ same drawnToo => cases drawn_eq last drawn same drawnToo
      | one _ same drawnToo =>
          cases drawn_eq last drawn same drawnToo
          rfl
      | field plain => exact absurd (marked last) plain.1
  | field plain =>
      cases second with
      | embed taken => exact absurd taken plain.2
      | many _ last | one _ last => exact absurd (marked last) plain.1
      | field => rfl

/-- What an accepted member describes is what it asks for. -/
theorem Describes.yields {call : Call} (describes : written.Describes call)
    : written.Yields call := by
  cases describes with
  | column plain => exact .field plain
  | embed own taken row => exact .embed taken row
  | @foreign key described joined =>
      obtain ⟨given, last, told⟩ := Option.bind_eq_some_iff.mp described
      have drawn := (given.foreignKey?_eq_some_iff key).mp told
      obtain ⟨other, column, _ | _⟩ := key
      · exact .one joined last drawn
      · exact .many joined last drawn

end MemberSyntax

/-- A member is accepted exactly if it is allowed, and then has the one call that its attributes and
its return type ask for. Any other member is rejected with the first of its faults: those of its
attributes from left to right, then arguments, the return type, an attribute that embeds beside one
that joins, an array where there must be none or none where there must be one, and at last the
attributes that only columns have. Nothing is said of a member that has nothing but dots for
arguments, unless one of its attributes is at fault already.
-/
theorem member_accepted_iff_allowed {written : MemberSyntax}
    (plain : written.HasOnlyDots → ∃ given ∈ written.attributes, ¬ given.IsAllowed)
    : ((∃ member, Member.ofSyntax written = .ok member) ↔ written.IsAllowed)
      ∧ (written.IsAllowed
        → ∀ call, memberCall (Member.ofSyntax written) = call ↔ written.Yields call)
      ∧ ∀ diagnostic,
          Member.ofSyntax written = .error diagnostic
          ↔ written.faults.head? = some diagnostic := by
  have reports := MemberSyntax.reports_ofSyntax written
  have accepted := reports.exists_ok_iff.trans (MemberSyntax.faults_eq_nil_iff plain)
  refine ⟨accepted, fun allowed call => ?_, reports.eq_error_iff⟩
  obtain ⟨member, made⟩ := accepted.mpr allowed
  have yields := (MemberSyntax.means_of_ofSyntax made).describes.yields
  rw [made]
  constructor
  · rintro rfl
    exact yields
  · exact fun asked => yields.unique asked

/-- A member as it should be, and one with an argument. -/
def numberedBlock : String :=
  "impl User {
    /// The number of the user.
    #[primary_key] fn id() -> i64;
    fn name(short: bool, ...) -> String;
  }"

theorem member_accepted_iff_allowed_of_numbered
    : ∃ content found first second,
        tokens numberedBlock = some content
        ∧ readAll block content = .ok found
        ∧ found.members = [first, second]
        ∧ first.IsAllowed
        ∧ first.Yields (.field "id" "id")
        ∧ second.faults.head? = some ⟨.argumentsGiven, ⟨4, 12⟩⟩ := by
  have told
      : ((tokens numberedBlock).bind fun content => (readAll block content).toOption).map
            (fun found => found.members.map fun written =>
              (memberCall (Member.ofSyntax written), written.firstArgument, written.dots))
          = some
              [(.field "id" "id", none, none),
                (.fault ⟨.argumentsGiven, ⟨4, 12⟩⟩, some ⟨4, 12⟩, some ⟨4, 25⟩)] := by
    decide +kernel
  simp only [Option.map_eq_some_iff, Option.bind_eq_some_iff, List.map_eq_cons_iff,
    List.map_eq_nil_iff, Prod.mk.injEq] at told
  obtain ⟨found, ⟨content, lexed, parsed⟩, first, _, split, ⟨call, -, dotless⟩, second, _, rfl,
    ⟨fault, argument, -⟩, rfl⟩ := told
  have plain : ¬ first.HasOnlyDots := fun dots => by simpa [dotless] using dots.2
  have plainToo : ¬ second.HasOnlyDots := fun dots => by simpa [argument] using dots.1
  obtain ⟨accepted, asks, -⟩ := member_accepted_iff_allowed fun dots => absurd dots plain
  obtain ⟨-, -, rejected⟩ := member_accepted_iff_allowed fun dots => absurd dots plainToo
  have allowed : first.IsAllowed := by
    refine accepted.mp ?_
    cases outcome : Member.ofSyntax first with
    | ok member => exact ⟨member, rfl⟩
    | error diagnostic =>
        rw [outcome] at call
        cases call
  have wrong : Member.ofSyntax second = .error ⟨.argumentsGiven, ⟨4, 12⟩⟩ := by
    cases outcome : Member.ofSyntax second with
    | ok member =>
        rw [outcome] at fault
        obtain ⟨_, _, _, _ | _ | _⟩ := member <;> cases fault
    | error diagnostic =>
        rw [outcome] at fault
        cases fault
        rfl
  exact ⟨content, found, first, second, lexed, eq_ok_of_toOption parsed, split, allowed,
    (asks allowed _).mp call, (rejected _).mp wrong⟩

-----------------------------------------------------------------------------------------
-- Members as they are documented
-----------------------------------------------------------------------------------------

/-- A doc comment: an attribute `doc` with the comment as a text behind an equals sign. -/
def Attribute.IsComment (given : Attribute) : Prop :=
  given.name = some "doc" ∧ ∃ found, given.text? = some found

/-- A member as it is documented. All that says nothing about it are doc comments. -/
def MemberSyntax.IsDocumented (written : MemberSyntax) : Prop :=
  written.IsAllowed
  ∧ ∀ given ∈ written.attributes, given.name = some "doc" → given.IsComment

/-- A member that is hidden from the documentation, and one with dots for arguments. -/
def looseBlock : String :=
  "impl User { #[doc(hidden)] fn id() -> i64; fn name(...) -> String; }"

/-- Both members of the block are accepted, and neither is as it is documented. -/
theorem accepted_not_documented
    : ∃ content found,
        tokens looseBlock = some content
        ∧ readAll block content = .ok found
        ∧ found.members.length = 2
        ∧ ∀ written ∈ found.members,
            ¬ ((∃ member, Member.ofSyntax written = .ok member) ↔ written.IsDocumented) := by
  have told
      : ((tokens looseBlock).bind fun content => (readAll block content).toOption).map
            (fun found => found.members.map fun written =>
              ((Member.ofSyntax written).toOption.isSome,
                written.attributes.any (fun given => given.name = some "doc" ∧ given.text? = none),
                written.dots.isSome))
          = some [(true, true, false), (true, false, true)] := by
    decide +kernel
  simp only [Option.map_eq_some_iff, Option.bind_eq_some_iff, List.map_eq_cons_iff,
    List.map_eq_nil_iff, Prod.mk.injEq] at told
  obtain ⟨found, ⟨content, lexed, parsed⟩, hidden, _, split, ⟨accepted, silent, -⟩, dotted, _, rfl,
    ⟨acceptedToo, -, dots⟩, rfl⟩ := told
  refine ⟨content, found, lexed, eq_ok_of_toOption parsed, by rw [split]; rfl, ?_⟩
  have made {written : MemberSyntax} (accepted : (Member.ofSyntax written).toOption.isSome = true)
      : ∃ member, Member.ofSyntax written = .ok member := by
    obtain ⟨member, made⟩ := Option.isSome_iff_exists.mp accepted
    exact ⟨member, eq_ok_of_toOption made⟩
  rw [split, List.forall_mem_cons, List.forall_mem_singleton]
  constructor
  · intro documented
    obtain ⟨given, inside, bare⟩ := List.any_eq_true.mp silent
    obtain ⟨named, textless⟩ := of_decide_eq_true bare
    obtain ⟨-, text, told⟩ := (documented.mp (made accepted)).2 given inside named
    cases textless.symm.trans told
  · intro documented
    have absent := (documented.mp (made acceptedToo)).1.arguments.2
    rw [absent] at dots
    cases dots

end NestedSelect.Declaration
