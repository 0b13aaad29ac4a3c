import NestedSelect.Declaration.Expansion
import NestedSelect.Proofs.Declaration.BlindItems
/-!
Members are blind to positions. What the argument of an attribute says does not depend on where it
stands, and what a member means does not depend on where its parts stand: where positions are
forgotten, the result is the same without its positions.
-/

namespace NestedSelect.Declaration

open Reader

variable {α β : Type}

-----------------------------------------------------------------------------------------
-- Arguments of attributes
-----------------------------------------------------------------------------------------

/-- All of some tokens are read without their positions if they are read with them. -/
theorem readAll_unplaced [Placed α] (reader : Reader α) [blind : reader.IsBlind]
    (tokens : List Token)
    : readAll reader (unplaced tokens) = unplaced (readAll reader tokens) := by
  have read := blind.run_unplaced ⟨tokens, [], none⟩
  change reader.run ⟨unplaced tokens, [], none⟩ = _ at read
  unfold readAll
  rw [read]
  cases reader.run ⟨tokens, [], none⟩ with
  | error diagnostic => rfl
  | ok found =>
      obtain ⟨value, rest, written, leftover⟩ := found
      cases leftover <;> cases rest <;> rfl

instance : Placed SideTable where
  unplaced
    | .self => .self
    | .other path => .other (unplaced path)

instance : Placed Side := ⟨fun side => ⟨unplaced side.table, side.columns⟩⟩
instance : Placed Arrow := ⟨fun arrow => ⟨unplaced arrow.first, unplaced arrow.second⟩⟩

instance : Placed ForeignKey :=
  ⟨fun key => ⟨unplaced key.other, key.column, key.referencesSelf⟩⟩

instance : Unplaces SideTable.self .self := ⟨rfl⟩
instance (path : Path) : Unplaces (SideTable.other (unplaced path)) (.other path) := ⟨rfl⟩
instance : columnNames.IsBlind := by unfold columnNames; infer_instance
instance : sideTable.IsBlind := by unfold sideTable; infer_instance

instance : side.IsBlind := by
  unfold side
  refine .bind inferInstance fun table => .bind_placeless inferInstance fun hasColumns => ?_
  split <;> exact .bind_placeless inferInstance fun columns => .pure rfl

instance : arrow.IsBlind := by
  unfold arrow
  exact .bind inferInstance fun first => .bind inferInstance fun _ =>
    .bind inferInstance fun second => .pure rfl

instance : Blind Arrow.foreignKey where
  commutes := by
    rintro ⟨⟨_ | path, columns⟩, ⟨_ | path, referenced⟩⟩ <;>
      rcases columns with _ | ⟨column, _ | _⟩ <;> cases referenced <;> rfl

instance : foreignArgument.IsBlind := by
  have described : (do return (← arrow).foreignKey : Reader (Except Fault ForeignKey)).IsBlind :=
    .bind inferInstance fun arrow => .pure (Blind.apply Arrow.foreignKey arrow)
  unfold foreignArgument
  infer_instance

instance : textArgument.IsBlind := by unfold textArgument; infer_instance

/-- Whether something stands behind a flag does not depend on where the flag stands. -/
theorem flag_unplaced (tokens : List Token) : flag (unplaced tokens) = unplaced (flag tokens) := by
  cases tokens <;> rfl

/-- The text in an argument does not depend on where the argument stands. -/
theorem textArgument_unplaced (tokens : List Token)
    : readAll textArgument (unplaced tokens) = unplaced (readAll textArgument tokens) :=
  readAll_unplaced textArgument tokens

/-- The foreign key in an argument does not depend on where the argument stands. -/
theorem foreignKey_unplaced (tokens : List Token)
    : foreignKey (unplaced tokens) = unplaced (foreignKey tokens) :=
  readAll_unplaced foreignArgument tokens

-----------------------------------------------------------------------------------------
-- Members
-----------------------------------------------------------------------------------------

instance : Placed MemberSyntax where
  unplaced written :=
    ⟨.start, unplaced written.attributes, written.name, unplaced written.firstArgument,
      unplaced written.dots, unplaced written.returns⟩

instance : Placed Markings where
  unplaced markings :=
    ⟨unplaced markings.primaryKey, unplaced markings.column, markings.jsonKey,
      unplaced markings.foreign, unplaced markings.embed⟩

instance : Placed Quantified where
  unplaced
    | .unit path => .unit (unplaced path)
    | .slice path => .slice (unplaced path)

instance : Placed MemberKind where
  unplaced
    | .column name isPrimaryKey => .column name isPrimaryKey
    | .foreign key => .foreign (unplaced key)
    | .embed target => .embed (unplaced target)

instance : Placed Member :=
  ⟨fun member => ⟨.start, member.name, member.jsonKey, unplaced member.kind⟩⟩

/-- Steps that may fail are taken one after the other without positions if each of them is. -/
theorem bind_unplaced [Placed α] [Placed β] {first' first : Except Diagnostic α}
    {next' next : α → Except Diagnostic β} (same : first' = unplaced first)
    (later : ∀ value, next' (unplaced value) = unplaced (next value))
    : first' >>= next' = unplaced (first >>= next) := by
  rw [same]
  cases first with
  | error diagnostic => rfl
  | ok value => exact later value

theorem Markings.add_unplaced (markings : Markings) (added : Attribute)
    : (unplaced markings).add (unplaced added) = unplaced (markings.add added) := by
  obtain ⟨name, position, tokens⟩ := added
  change Markings.add (unplaced markings) ⟨name, .start, unplaced tokens⟩ = _
  unfold Markings.add
  dsimp only
  split
  case h_1 | h_7 => rfl
  case h_2 | h_3 => exact bind_unplaced (flag_unplaced tokens) fun _ => rfl
  case h_4 | h_5 => exact bind_unplaced (textArgument_unplaced tokens) fun _ => rfl
  case h_6 => exact bind_unplaced (foreignKey_unplaced tokens) fun _ => rfl

instance : Blind Markings.ofAttributes where
  commutes attributes := by
    -- Induction over the attributes, for whatever earlier ones say.
    suffices each : ∀ markings : Markings,
        (unplaced attributes).foldlM Markings.add (unplaced markings)
          = unplaced (attributes.foldlM Markings.add markings) from
      each {}
    induction attributes with
    | nil => exact fun markings => rfl
    | cons added others ih =>
        intro markings
        exact bind_unplaced (markings.add_unplaced added) ih

theorem quantified_unplaced (start : Position) (returns : Option TypeShape)
    : quantified .start (unplaced returns) = unplaced (quantified start returns) := by
  rcases returns with _ | shape
  · rfl
  · cases shape with
    | slice position element => cases element <;> rfl
    | named | parenthesized | object | other => rfl

theorem Markings.kind_unplaced (markings : Markings) (name : String) (returns : Quantified)
    : (unplaced markings).kind name (unplaced returns)
        = unplaced (markings.kind name returns) := by
  obtain ⟨primaryKey, column, jsonKey, foreign, embed⟩ := markings
  cases foreign with
  | none => cases embed <;> cases returns <;> cases primaryKey <;> cases column <;> rfl
  | some key =>
      cases embed with
      | some position => cases returns <;> rfl
      | none =>
          obtain ⟨other, column, referencesSelf⟩ := key
          cases returns <;> cases referencesSelf <;> rfl

theorem Markings.checkKind_unplaced (markings : Markings) (kind : MemberKind)
    : (unplaced markings).checkKind (unplaced kind) = unplaced (markings.checkKind kind) := by
  obtain ⟨primaryKey, column, jsonKey, foreign, embed⟩ := markings
  cases kind <;> cases primaryKey <;> cases column <;> rfl

/-- What a member means does not depend on where its parts stand. -/
instance : Blind Member.ofSyntax where
  commutes written := by
    refine bind_unplaced (Blind.apply Markings.ofAttributes written.attributes) fun markings => ?_
    obtain ⟨start, attributes, name, firstArgument, dots, returns⟩ := written
    cases firstArgument with
    | some position => rfl
    | none =>
        refine bind_unplaced (quantified_unplaced start returns) fun quantity => ?_
        refine bind_unplaced (markings.kind_unplaced name quantity) fun kind => ?_
        exact bind_unplaced (markings.checkKind_unplaced kind) fun _ => rfl

instance : Blind Member.primaryKey? where
  commutes member := by
    obtain ⟨start, name, jsonKey, _ | _ | _⟩ := member
    case column column isPrimaryKey => cases isPrimaryKey <;> rfl
    all_goals rfl

instance : Placed Call where
  unplaced
    | .relation kind name foreignKey target jsonKey =>
      .relation kind name foreignKey (unplaced target) jsonKey
    | .embed name target jsonKey => .embed name (unplaced target) jsonKey
    | .fault diagnostic => .fault (unplaced diagnostic)
    | call => call

instance : Blind Member.call where
  commutes member := by
    obtain ⟨start, name, jsonKey, _ | _ | _⟩ := member <;> rfl

end NestedSelect.Declaration
