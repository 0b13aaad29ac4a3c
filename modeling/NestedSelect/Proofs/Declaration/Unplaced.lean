import NestedSelect.Declaration.Member
/-!
Texts up to where they stand. Moving a text changes the positions in whatever is read from it and
nothing else, so positions are forgotten here: all of them become the start of a text. A function
is blind to positions if it makes no difference whether they are forgotten before or after it.
-/

namespace NestedSelect.Declaration

variable {α β : Type}

-----------------------------------------------------------------------------------------
-- Forgetting positions
-----------------------------------------------------------------------------------------

/-- Values that may hold positions, all of which can be forgotten. -/
class Placed (α : Type) where
  unplaced : α → α

export Placed (unplaced)

/-- Unless it is said otherwise, a value holds no position. -/
instance (priority := low) : Placed α := ⟨id⟩

/-- Values that hold no positions. -/
class Placeless (α : Type) [Placed α] : Prop where
  unplaced_eq : ∀ value : α, unplaced value = value

attribute [simp] Placeless.unplaced_eq

instance (priority := low) : @Placeless α ⟨id⟩ := ⟨fun _ => rfl⟩

instance : Placed Position := ⟨fun _ => .start⟩
instance : Placed Token := ⟨fun token => ⟨token.kind, token.spelling, .start⟩⟩
instance : Placed Diagnostic := ⟨fun diagnostic => ⟨diagnostic.fault, .start⟩⟩

instance [Placed α] : Placed (List α) := ⟨List.map unplaced⟩
instance [Placed α] : Placed (Option α) := ⟨Option.map unplaced⟩
instance [Placed α] [Placed β] : Placed (α × β) := ⟨fun pair => (unplaced pair.1, unplaced pair.2)⟩

instance [Placed α] [Placed β] : Placed (Except α β) where
  unplaced
    | .error error => .error (unplaced error)
    | .ok value => .ok (unplaced value)

@[simp]
theorem unplaced_ok [Placed α] [Placed β] (value : β)
    : unplaced (.ok value : Except α β) = .ok (unplaced value) := rfl

@[simp]
theorem unplaced_error [Placed α] [Placed β] (error : α)
    : unplaced (.error error : Except α β) = .error (unplaced error) := rfl

@[simp]
theorem unplaced_none [Placed α] : unplaced (none : Option α) = none := rfl

@[simp]
theorem unplaced_some [Placed α] (value : α) : unplaced (some value) = some (unplaced value) := rfl

@[simp]
theorem unplaced_pair [Placed α] [Placed β] (first : α) (second : β)
    : unplaced (first, second) = (unplaced first, unplaced second) := rfl

@[simp]
theorem fst_unplaced [Placed α] [Placed β] (pair : α × β) : (unplaced pair).1 = unplaced pair.1 :=
  rfl

@[simp]
theorem snd_unplaced [Placed α] [Placed β] (pair : α × β) : (unplaced pair).2 = unplaced pair.2 :=
  rfl

@[simp]
theorem unplaced_diagnostic (fault : Fault) (position : Position)
    : unplaced (⟨fault, position⟩ : Diagnostic) = ⟨fault, unplaced position⟩ := rfl

section

variable [Placed α] [Placeless α]

theorem unplaced_eq_id : (unplaced : α → α) = id := funext Placeless.unplaced_eq

instance : Placeless (List α) where
  unplaced_eq values := by
    change List.map unplaced values = values
    rw [unplaced_eq_id, List.map_id]

instance : Placeless (Option α) where
  unplaced_eq value := by
    change Option.map unplaced value = value
    rw [unplaced_eq_id, Option.map_id_apply]

instance [Placed β] [Placeless β] : Placeless (α × β) where
  unplaced_eq pair := Prod.ext (Placeless.unplaced_eq pair.1) (Placeless.unplaced_eq pair.2)

instance [Placed β] [Placeless β] : Placeless (Except α β) where
  unplaced_eq
    | .error error => congrArg Except.error (Placeless.unplaced_eq error)
    | .ok value => congrArg Except.ok (Placeless.unplaced_eq value)

end

/-- The first value is the second one without its positions. -/
class Unplaces [Placed α] (unplacedValue value : α) : Prop where
  eq : unplacedValue = unplaced value

instance [Placed α] (value : α) : Unplaces (unplaced value) value := ⟨rfl⟩

instance [Placed α] [Placeless α] (value : α) : Unplaces value value :=
  ⟨(Placeless.unplaced_eq value).symm⟩

section

variable [Placed α] [Placed β] (value' value : α) [same : Unplaces value' value]

instance : Unplaces (none : Option α) none := ⟨rfl⟩
instance : Unplaces (some value') (some value) := ⟨congrArg some same.eq⟩
instance : Unplaces ([] : List α) [] := ⟨rfl⟩

instance (condition : Prop) [Decidable condition] (other' other : α) [Unplaces other' other]
    : Unplaces (if condition then value' else other') (if condition then value else other) := by
  split <;> infer_instance

instance (rest' rest : List α) [others : Unplaces rest' rest]
    : Unplaces (value' :: rest') (value :: rest) := by
  rw [same.eq, others.eq]
  exact ⟨rfl⟩

instance (second' second : β) [other : Unplaces second' second]
    : Unplaces (value', second') (value, second) := by
  rw [same.eq, other.eq]
  exact ⟨rfl⟩

end

instance [Placed α] [Placed β] {ε : Type} [Placed ε] [Placeless ε] [Placeless α]
    (found : Except ε α) (function : α → β)
    [same : ∀ value, Unplaces (function value) (function value)]
    : Unplaces (found.map function) (found.map function) where
  eq := by
    cases found with
    | error error => exact congrArg Except.error (Placeless.unplaced_eq error).symm
    | ok value => exact congrArg Except.ok (same value).eq

-----------------------------------------------------------------------------------------
-- Lists of tokens
-----------------------------------------------------------------------------------------

section

variable [Placed α] (items : List α)

@[simp]
theorem length_unplaced : (unplaced items).length = items.length := List.length_map _

@[simp]
theorem isEmpty_unplaced : (unplaced items).isEmpty = items.isEmpty := List.isEmpty_map

@[simp]
theorem drop_unplaced (count : Nat) : (unplaced items).drop count = unplaced (items.drop count) :=
  (List.map_drop).symm

@[simp]
theorem take_unplaced (count : Nat) : (unplaced items).take count = unplaced (items.take count) :=
  (List.map_take).symm

@[simp]
theorem append_unplaced (others : List α)
    : unplaced items ++ unplaced others = unplaced (items ++ others) :=
  (List.map_append).symm

@[simp]
theorem reverse_unplaced : (unplaced items).reverse = unplaced items.reverse :=
  (List.map_reverse).symm

@[simp]
theorem head?_unplaced : (unplaced items).head? = unplaced items.head? := List.head?_map

section

variable (values' values : List α) [same : Unplaces values' values]

instance : Unplaces values'.reverse values.reverse := ⟨same.eq ▸ reverse_unplaced values⟩

instance (count : Nat) : Unplaces (values'.take count) (values.take count) :=
  ⟨same.eq ▸ take_unplaced values count⟩

instance (count : Nat) : Unplaces (values'.drop count) (values.drop count) :=
  ⟨same.eq ▸ drop_unplaced values count⟩

instance (others' others : List α) [also : Unplaces others' others]
    : Unplaces (values' ++ others') (values ++ others) :=
  ⟨same.eq ▸ also.eq ▸ append_unplaced values others⟩

end

end

/-- A function that makes no difference between positions. -/
class Blind [Placed α] [Placed β] (function : α → β) : Prop where
  commutes : ∀ value, function (unplaced value) = unplaced (function value)

theorem Blind.apply [Placed α] [Placed β] (function : α → β) [Blind function] (value : α)
    : function (unplaced value) = unplaced (function value) :=
  Blind.commutes value

/-- What holds no positions is told without them as it is told with them. -/
theorem Blind.same [Placed α] [Placed β] [Placeless β] (function : α → β) [Blind function]
    (value : α)
    : function (unplaced value) = function value :=
  (Blind.apply function value).trans (Placeless.unplaced_eq _)

instance [Placed α] [Placed β] [Placeless β] (value : β) : Blind fun _ : α => value :=
  ⟨fun _ => (Placeless.unplaced_eq value).symm⟩

instance (priority := low) [Placed α] [Placed β] [Placeless α] [Placeless β] (function : α → β)
    : Blind function where
  commutes value := by
    rw [Placeless.unplaced_eq value]
    exact (Placeless.unplaced_eq _).symm

instance [Placed α] [Placed β] : Blind fun pair : α × β => pair.2 := ⟨fun _ => rfl⟩

instance : Blind place where
  commutes tokens := by cases tokens <;> rfl

instance : Blind atEnd where
  commutes tokens := by cases tokens <;> rfl

instance : Blind (List.length : List Token → Nat) := ⟨fun tokens => length_unplaced tokens⟩

/-- The contents of a group and what follows them are told apart without positions, by induction
over the tokens.
-/
theorem splitGroup_unplaced (depth : Nat) (tokens : List Token)
    : splitGroup depth (unplaced tokens) = unplaced (splitGroup depth tokens) := by
  induction tokens generalizing depth with
  | nil => rfl
  | cons token rest ih =>
      change splitGroup depth (unplaced token :: unplaced rest) = _
      obtain ⟨kind, spelling, position⟩ := token
      have front (depth : Nat)
          : (unplaced (⟨kind, spelling, position⟩ : Token) :: (splitGroup depth (unplaced rest)).1,
              (splitGroup depth (unplaced rest)).2)
            = unplaced
                ((⟨kind, spelling, position⟩ : Token) :: (splitGroup depth rest).1,
                  (splitGroup depth rest).2) := by
        rw [ih]
        rfl
      cases kind with
      | closing delimiter =>
          cases depth with
          | zero => rfl
          | succ depth => exact front depth
      | opening delimiter => exact front (depth + 1)
      | word | mark | text | number | literal => exact front depth

instance : Blind groupEnd := ⟨fun tokens => congrArg Prod.snd (splitGroup_unplaced 0 tokens)⟩

-----------------------------------------------------------------------------------------
-- Questions about tokens
-----------------------------------------------------------------------------------------

instance (property : Token → Bool) [Blind property] : Blind (next property) where
  commutes tokens := by
    cases tokens with
    | nil => rfl
    | cons token rest => exact Blind.same property token

instance (kind : TokenKind) : Blind fun token : Token => decide (token.kind = kind) :=
  ⟨fun _ => rfl⟩

instance (spelling : String) : Blind fun token : Token => token.isWord spelling := ⟨fun _ => rfl⟩
instance : Blind Token.isIdentifier := ⟨fun _ => rfl⟩
instance (c : Char) : Blind fun token : Token => token.isMark c := ⟨fun _ => rfl⟩
instance (c : Char) : Blind fun token : Token => token.isJointMark c := ⟨fun _ => rfl⟩

instance (delimiter : Delimiter) : Blind fun token : Token => token.isOpening delimiter :=
  ⟨fun _ => rfl⟩

section

variable (what other : Lookahead) [Blind what] [Blind other]

instance : Blind fun tokens => what tokens && other tokens where
  commutes tokens := by
    rw [Blind.same what, Blind.same other]
    rfl

instance : Blind fun tokens => what tokens || other tokens where
  commutes tokens := by
    rw [Blind.same what, Blind.same other]
    rfl

instance : Blind fun tokens => !what tokens where
  commutes tokens := by
    rw [Blind.same what]
    rfl

instance [Placed α] (yes no : List Token → α) [Blind yes] [Blind no]
    : Blind fun tokens => if what tokens then yes tokens else no tokens where
  commutes tokens := by
    rw [Blind.same what, apply_ite unplaced, Blind.apply yes, Blind.apply no]

instance (count : List Token → Nat) [Blind count]
    : Blind fun tokens : List Token => what (tokens.drop (count tokens)) where
  commutes tokens := by
    rw [drop_unplaced, Blind.same what, Blind.same count]
    rfl

instance : Blind (nextOf []) := ⟨fun _ => rfl⟩

instance (choices : List Lookahead) [Blind (nextOf choices)] : Blind (nextOf (what :: choices)) :=
  inferInstanceAs (Blind fun tokens => what tokens || nextOf choices tokens)

end

instance (spelling : String) : Blind (nextWord spelling) := by unfold nextWord; infer_instance
instance : Blind nextAnyWord := by unfold nextAnyWord; infer_instance

instance (spellings : List String) : Blind (nextWordOf spellings) where
  commutes tokens := by cases tokens <;> rfl

instance : Blind nextIdentifier := by unfold nextIdentifier; infer_instance
instance (c : Char) : Blind (nextMark c) := by unfold nextMark; infer_instance

/-- Marks are told apart without positions, by induction over them. -/
theorem nextAllMarks_unplaced (marks : List Char) (tokens : List Token)
    : nextAllMarks marks (unplaced tokens) = nextAllMarks marks tokens := by
  induction marks generalizing tokens with
  | nil => rfl
  | cons c others ih =>
      unfold nextAllMarks
      rw [drop_unplaced, ih, Blind.same (nextMark c), Blind.same (next _)]

instance (spelling : String) : Blind (nextMarks spelling) :=
  ⟨fun tokens => nextAllMarks_unplaced spelling.toList tokens⟩

instance (delimiter : Delimiter) : Blind (nextGroup delimiter) := by
  unfold nextGroup; infer_instance

instance : Blind nextLifetime := by unfold nextLifetime; infer_instance

instance : Blind nextText where
  commutes tokens := by cases tokens <;> rfl

instance (isInteger : Bool) : Blind (nextNumber isInteger) where
  commutes tokens := by
    unfold nextNumber
    rw [Blind.same (nextMark '-'), drop_unplaced, ← apply_ite unplaced]
    dsimp only
    generalize (if nextMark '-' tokens = true then tokens.drop 1 else tokens) = number
    cases number <;> rfl

instance : Blind nextLiteral := by unfold nextLiteral; infer_instance

instance : Blind skipTree where
  commutes tokens := by
    have behind := Blind.same nextLifetime tokens
    cases tokens with
    | nil => rfl
    | cons token rest =>
        obtain ⟨kind, spelling, position⟩ := token
        have plain
            : (if nextLifetime (unplaced (⟨kind, spelling, position⟩ :: rest)) then
                  (unplaced rest).drop 1
                else unplaced rest)
              = unplaced
                  (if nextLifetime (⟨kind, spelling, position⟩ :: rest) then rest.drop 1
                  else rest) := by
          rw [behind, drop_unplaced, apply_ite unplaced]
        cases kind with
        | closing delimiter => rfl
        | opening delimiter =>
            change (groupEnd (unplaced rest)).drop 1 = unplaced ((groupEnd rest).drop 1)
            rw [Blind.apply groupEnd, drop_unplaced]
        | word | mark | text | number | literal => exact plain

instance (what : Lookahead) [Blind what] : Blind (second what) where
  commutes tokens := by
    rw [second, Blind.apply skipTree, Blind.same what]
    rfl

instance (what : Lookahead) [Blind what] : Blind (third what) where
  commutes tokens := by
    rw [third, Blind.apply skipTree, Blind.apply skipTree,
      Blind.same what]
    rfl

end NestedSelect.Declaration
