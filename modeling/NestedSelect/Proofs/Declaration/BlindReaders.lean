import NestedSelect.Proofs.Declaration.Unplaced
/-!
Readers that are blind to positions. On a text whose positions are forgotten such a reader does
what it does on the text itself, and what it reads and writes is the same without its positions. All
ways to put readers together preserve this, so a reader is blind because of the parts it is made of.
-/

namespace NestedSelect.Declaration

open Reader

variable {α β σ : Type}

-----------------------------------------------------------------------------------------
-- What is read
-----------------------------------------------------------------------------------------

instance : Placed Progress where
  unplaced progress :=
    ⟨unplaced progress.rest, unplaced progress.written, unplaced progress.leftover⟩

section

variable (progress : Progress)

@[simp]
theorem rest_unplaced : (unplaced progress).rest = unplaced progress.rest := rfl

@[simp]
theorem written_unplaced : (unplaced progress).written = unplaced progress.written := rfl

@[simp]
theorem leftover_unplaced : (unplaced progress).leftover = unplaced progress.leftover := rfl

@[simp]
theorem unplaced_progress (rest written : List Token) (leftover : Option Position)
    : unplaced (⟨rest, written, leftover⟩ : Progress)
        = ⟨unplaced rest, unplaced written, unplaced leftover⟩ := rfl

end

instance : Placed Record := ⟨fun record => ⟨unplaced record.given, unplaced record.written⟩⟩

@[simp]
theorem unplaced_record (given written : List Token)
    : unplaced (⟨given, written⟩ : Record) = ⟨unplaced given, unplaced written⟩ := rfl

instance (record : Record) : Unplaces (unplaced record).given record.given := ⟨rfl⟩
instance (record : Record) : Unplaces (unplaced record).written record.written := ⟨rfl⟩

instance : Placed Attribute := ⟨fun given => ⟨given.name, .start, unplaced given.tokens⟩⟩

instance [Placed α] : Placed (Piece α) where
  unplaced piece := ⟨unplaced piece.value, unplaced piece.tokens, unplaced piece.comma⟩

-----------------------------------------------------------------------------------------
-- Blind readers
-----------------------------------------------------------------------------------------

/-- One reader does without positions what the other one does with them. -/
class Reader.Mirrors [Placed α] (mirror reader : Reader α) : Prop where
  run_unplaced : ∀ before, mirror.run (unplaced before) = unplaced (reader.run before)

/-- A reader that makes no difference between positions. -/
abbrev Reader.IsBlind [Placed α] (reader : Reader α) : Prop := Mirrors reader reader

section

variable [Placed α] [Placed β]

theorem Reader.Mirrors.pure {value' value : α} (same : value' = unplaced value)
    : Mirrors (Pure.pure value') (Pure.pure value) := by
  rw [same]
  exact ⟨fun _ => rfl⟩

/-- What is done next may depend on what has been read, without its positions. -/
theorem Reader.Mirrors.bind {first' first : Reader α} {next' next : α → Reader β}
    (mirrors : Mirrors first' first)
    (later : ∀ value, Mirrors (next' (unplaced value)) (next value))
    : Mirrors (first' >>= next') (first >>= next) where
  run_unplaced before := by
    change runBoth first' next' _ = unplaced (runBoth first next before)
    unfold runBoth
    rw [mirrors.run_unplaced]
    cases first.run before with
    | error diagnostic => rfl
    | ok found => exact (later found.1).run_unplaced found.2

theorem Reader.Mirrors.bind_placeless [Placeless α] {first' first : Reader α}
    {next' next : α → Reader β} (mirrors : Mirrors first' first)
    (later : ∀ value, Mirrors (next' value) (next value))
    : Mirrors (first' >>= next') (first >>= next) :=
  .bind mirrors fun value => by
    rw [Placeless.unplaced_eq value]
    exact later value

instance (value' value : α) [Unplaces value' value] : Mirrors (pure value') (pure value) :=
  .pure Unplaces.eq

instance (priority := low) (first' first : Reader α) (next' next : α → Reader β)
    [Mirrors first' first] [later : ∀ value, Mirrors (next' (unplaced value)) (next value)]
    : Mirrors (first' >>= next') (first >>= next) :=
  .bind inferInstance later

instance [Placeless α] (first' first : Reader α) (next' next : α → Reader β)
    [Mirrors first' first] [later : ∀ value, Mirrors (next' value) (next value)]
    : Mirrors (first' >>= next') (first >>= next) :=
  .bind_placeless inferInstance later

section

variable [Placed σ] (first' first : Reader (α × β)) (next' next : α × β → Reader σ)
  [Mirrors first' first]

instance (priority := low) [later : ∀ value other,
      Mirrors (next' (unplaced value, unplaced other)) (next (value, other))]
    : Mirrors (first' >>= next') (first >>= next) :=
  .bind inferInstance fun (value, other) => later value other

instance [Placeless α] [later : ∀ value other,
      Mirrors (next' (value, unplaced other)) (next (value, other))]
    : Mirrors (first' >>= next') (first >>= next) :=
  .bind inferInstance fun (value, other) => by
    rw [unplaced_pair, Placeless.unplaced_eq value]
    exact later value other

instance [Placeless α] [Placeless β] [later : ∀ value other,
      Mirrors (next' (value, other)) (next (value, other))]
    : Mirrors (first' >>= next') (first >>= next) :=
  .bind_placeless inferInstance fun (value, other) => later value other

end

section

variable [Placed σ] (first' first : Reader (Option α)) (next' next : Option α → Reader σ)
  [Mirrors first' first] [missing : Mirrors (next' none) (next none)]

instance (priority := low)
    [found : ∀ value, Mirrors (next' (some (unplaced value))) (next (some value))]
    : Mirrors (first' >>= next') (first >>= next) :=
  .bind inferInstance fun
    | none => missing
    | some value => found value

instance (priority := low) [Placeless α]
    [found : ∀ value, Mirrors (next' (some value)) (next (some value))]
    : Mirrors (first' >>= next') (first >>= next) :=
  .bind_placeless inferInstance fun
    | none => missing
    | some value => found value

end

instance (condition : Prop) [Decidable condition] (yes' yes no' no : Reader α)
    [Mirrors yes' yes] [Mirrors no' no]
    : Mirrors (if condition then yes' else no') (if condition then yes else no) := by
  split <;> infer_instance

instance (view : List Token → α) [Blind view] : IsBlind (look view) where
  run_unplaced before :=
    congrArg (fun value => Except.ok (value, unplaced before)) (Blind.apply view before.rest)

instance : IsBlind remaining := by unfold remaining; infer_instance

instance (fault : List Token → Fault) [Blind fault] : IsBlind (fail fault : Reader α) where
  run_unplaced before := by
    simp [fail, Blind.same fault, Blind.apply place]

theorem behind_unplaced (before : Progress) (count : Nat)
    : Progress.behind (unplaced before) count = unplaced (Progress.behind before count) := by
  simp [Progress.behind]

theorem closed_unplaced (before : Progress)
    : Progress.closed (unplaced before) = unplaced (Progress.closed before) := by
  simp [Progress.closed, Blind.apply groupEnd]

instance (count : Nat) : IsBlind (take count) where
  run_unplaced before := by
    have plain
        : (unplaced (before.rest.take count)).all (!·.isDelimiter)
          = (before.rest.take count).all (!·.isDelimiter) :=
      List.all_map
    change runTake count (unplaced before) = unplaced (runTake count before)
    simp only [runTake, rest_unplaced, take_unplaced, plain, behind_unplaced, Blind.apply place]
    split <;> rfl

instance : IsBlind allTokens where
  run_unplaced before := by
    simp [allTokens, splitGroup_unplaced, Blind.apply groupEnd]

instance (tokens' tokens : List Token) [same : Unplaces tokens' tokens]
    : Mirrors (write tokens') (write tokens) where
  run_unplaced before := by
    simp [write, rewrite, same.eq]

instance (change : List Token → List Token) [Blind change] : IsBlind (rewrite change) where
  run_unplaced before := by
    simp [rewrite, Blind.apply change]

instance (count : Nat) : Blind fun tokens : List Token => tokens.drop count := ⟨fun _ => by simp⟩

instance (count : Nat) : IsBlind (retract count) := by unfold retract; infer_instance

instance (reader' reader : Reader α) [inside : Mirrors reader' reader]
    : Mirrors (recorded reader') (recorded reader) where
  run_unplaced before := by
    have read := inside.run_unplaced { before with written := [] }
    change reader'.run { unplaced before with written := [] } = _ at read
    change runRecorded reader' (unplaced before) = unplaced (runRecorded reader before)
    unfold runRecorded
    rw [read]
    cases reader.run { before with written := [] } with
    | error diagnostic => rfl
    | ok found => simp

instance (reader' reader : Reader (Except Fault α)) [inside : Mirrors reader' reader]
    : Mirrors (whole reader') (whole reader) where
  run_unplaced before := by
    change runWhole reader' (unplaced before) = unplaced (runWhole reader before)
    unfold runWhole
    rw [inside.run_unplaced]
    cases reader.run before with
    | error diagnostic => rfl
    | ok found =>
        obtain ⟨outcome, after⟩ := found
        cases outcome with
        | error fault => simp [Blind.apply place]
        | ok value => rfl

instance (reader' reader : Reader (Option α)) [inside : Mirrors reader' reader]
    : Mirrors (attempt reader') (attempt reader) where
  run_unplaced before := by
    change runAttempt reader' (unplaced before) = unplaced (runAttempt reader before)
    unfold runAttempt
    rw [inside.run_unplaced]
    cases reader.run before with
    | error diagnostic => rfl
    | ok found =>
        obtain ⟨value, after⟩ := found
        cases value <;> rfl

instance (reader : Unit → Reader α) [inside : IsBlind (reader ())] : IsBlind (delay reader) :=
  ⟨inside.run_unplaced⟩

/-- A group is read without its positions if its contents are, and what comes behind it. -/
theorem Reader.Mirrors.enclosed {delimiter : Delimiter} {fault : List Token → Fault} [Blind fault]
    {contents' contents : Reader α} {next' next : α → Reader β}
    (inside : Mirrors contents' contents)
    (behind : ∀ value, Mirrors (next' (unplaced value)) (next value))
    : Mirrors (Reader.enclosed delimiter fault contents' next')
        (Reader.enclosed delimiter fault contents next) where
  run_unplaced before := by
    change runEnclosed delimiter fault contents' next' (unplaced before)
      = unplaced (runEnclosed delimiter fault contents next before)
    have opens : (unplaced before.rest).head?.any (·.isOpening delimiter)
        = before.rest.head?.any (·.isOpening delimiter) := Blind.same (nextGroup delimiter) _
    simp only [runEnclosed, rest_unplaced, opens, behind_unplaced, inside.run_unplaced,
      Blind.same fault, Blind.apply place]
    split
    case isFalse => rfl
    case isTrue =>
      cases contents.run (Progress.behind before 1) with
      | error diagnostic => rfl
      | ok found =>
          obtain ⟨value, middle⟩ := found
          change runClosing (next' (unplaced value)) (unplaced middle)
            = unplaced (runClosing (next value) middle)
          simp only [runClosing, closed_unplaced, (behind value).run_unplaced]
          cases (next value).run (Progress.closed middle) with
          | error diagnostic => rfl
          | ok result =>
              obtain ⟨result, after⟩ := result
              simp [Blind.same atEnd, Blind.apply place]
              cases after.leftover <;> split <;> rfl

/-- A loop is run without positions if each of its steps is, by induction over the steps. -/
theorem Reader.Mirrors.iterateFor {step' step : σ → Reader (Option σ)} [Placed σ]
    (each : ∀ state, Mirrors (step' (unplaced state)) (step state)) (times : Nat) (state : σ)
    : Mirrors (Reader.iterateFor step' times (unplaced state))
        (Reader.iterateFor step times state) := by
  induction times generalizing state with
  | zero => exact .pure rfl
  | succ times ih =>
      refine .bind (each state) fun next => ?_
      cases next with
      | none => exact .pure rfl
      | some next => exact ih next

theorem Reader.Mirrors.iterate {step' step : σ → Reader (Option σ)} [Placed σ]
    (each : ∀ state, Mirrors (step' (unplaced state)) (step state)) (state : σ)
    : Mirrors (Reader.iterate step' (unplaced state)) (Reader.iterate step state) :=
  .bind inferInstance fun tokens => .iterateFor each (tokens + 1) state

instance [Placed σ] [Placeless σ] (step : σ → Reader (Option σ)) (state : σ)
    [each : ∀ state, IsBlind (step state)]
    : IsBlind (iterate step state) := by
  have same (state : σ) : Mirrors (step (unplaced state)) (step state) := by
    rw [Placeless.unplaced_eq state]
    exact each state
  have mirrors := Mirrors.iterate same state
  rwa [Placeless.unplaced_eq state] at mirrors

end

-----------------------------------------------------------------------------------------
-- Single tokens
-----------------------------------------------------------------------------------------

section

variable [Placed α]

instance (what : String) : Blind (missing what) := by unfold missing; infer_instance

instance (choices : List String) : Blind (missingOf choices) where
  commutes tokens := by
    unfold missingOf
    split <;> simp [Blind.same atEnd, Blind.same (missing _)]

instance (what : String) : IsBlind (failMissing what : Reader α) := by
  unfold failMissing; infer_instance

instance (choices : List String) : IsBlind (failMissingOf choices : Reader α) := by
  unfold failMissingOf; infer_instance

instance (what : Lookahead) [Blind what] : IsBlind (sees what) := by unfold sees; infer_instance

instance (what : Lookahead) (reader : Reader Unit) [Blind what] [IsBlind reader]
    : IsBlind (optionally what reader) := by
  unfold optionally; infer_instance

instance (property : Token → Bool) [Blind property]
    : Blind fun tokens : List Token => tokens.head?.filter property where
  commutes tokens := by
    cases tokens with
    | nil => rfl
    | cons token rest =>
        change Option.filter property (some (unplaced token)) = _
        simp only [Option.filter_some, Blind.same property token, List.head?_cons]
        split <;> rfl

instance (what : String) (property : Token → Bool) [Blind property]
    : IsBlind (expect what property) := by
  unfold expect
  refine .bind inferInstance fun found => ?_
  cases found with
  | none => exact inferInstanceAs (IsBlind (failMissing what))
  | some token =>
      exact inferInstanceAs
        (Mirrors (take 1 >>= fun _ => pure (unplaced token)) (take 1 >>= fun _ => pure token))

instance (token : Token) : Unplaces (unplaced token).spelling token.spelling := ⟨rfl⟩

instance (kind : TokenKind) (spelling : String)
    : Unplaces (Token.synthetic kind spelling) (Token.synthetic kind spelling) :=
  ⟨rfl⟩

instance (spelling : String) : IsBlind (word spelling) := by unfold word; infer_instance
instance (spelling : String) : IsBlind (wordIf spelling) := by unfold wordIf; infer_instance
instance : IsBlind identifier := by unfold identifier; infer_instance
instance : IsBlind anyWord := by unfold anyWord; infer_instance
instance : IsBlind nameOrUnderscore := by unfold nameOrUnderscore; infer_instance
instance (spelling : String) : IsBlind (marks spelling) := by unfold marks; infer_instance
instance (spelling : String) : IsBlind (marksIf spelling) := by unfold marksIf; infer_instance
instance : IsBlind lifetime := by unfold lifetime; infer_instance
instance : IsBlind lifetimeIf := by unfold lifetimeIf; infer_instance
instance : IsBlind literal := by unfold literal; infer_instance

instance : IsBlind stringLiteral := by
  unfold stringLiteral
  extract_lets text?
  have blind : Blind text? := by
    constructor
    rintro (_ | ⟨⟨kind, spelling, position⟩, rest⟩)
    · rfl
    · cases kind <;> rfl
  refine .bind_placeless inferInstance fun found => ?_
  cases found <;> infer_instance

-----------------------------------------------------------------------------------------
-- Groups and lists
-----------------------------------------------------------------------------------------

instance (priority := low) [Placed β] (delimiter : Delimiter) (contents' contents : Reader α)
    (behind' behind : α → Reader β) [Mirrors contents' contents]
    [later : ∀ value, Mirrors (behind' (unplaced value)) (behind value)]
    : Mirrors (groupThen delimiter contents' behind') (groupThen delimiter contents behind) :=
  .enclosed inferInstance later

instance [Placed β] [Placeless α] (delimiter : Delimiter) (contents' contents : Reader α)
    (behind' behind : α → Reader β) [Mirrors contents' contents]
    [later : ∀ value, Mirrors (behind' value) (behind value)]
    : Mirrors (groupThen delimiter contents' behind') (groupThen delimiter contents behind) :=
  .enclosed inferInstance fun value => by
    rw [Placeless.unplaced_eq value]
    exact later value

instance (delimiter : Delimiter) (contents' contents : Reader α) [Mirrors contents' contents]
    : Mirrors (group delimiter contents') (group delimiter contents) :=
  .enclosed inferInstance fun _ => .pure rfl

instance : IsBlind anyGroup := by
  unfold anyGroup
  extract_lets kind
  have blind : Blind kind := by
    constructor
    rintro (_ | ⟨⟨kind, spelling, position⟩, rest⟩)
    · rfl
    · cases kind <;> rfl
  refine .bind_placeless inferInstance fun found => ?_
  cases found <;> infer_instance

section

variable (ends : Lookahead) (item : Reader α) [Blind ends] [IsBlind item]

instance : IsBlind (separated ends item) := by
  unfold separated
  exact .bind (.iterate (fun items => by infer_instance) []) fun items => inferInstance

instance : IsBlind (listed item) := by unfold listed; infer_instance

instance : IsBlind (repeated item) := by
  unfold repeated
  exact .bind (.iterate (fun items => by infer_instance) []) fun items => inferInstance

instance (mark : String) : IsBlind (chained mark ends item) := by
  unfold chained
  refine .bind (.iterate (fun (found, goesOn) => ?_) ([], true)) fun (found, _) =>
    .pure (reverse_unplaced found)
  simp only [unplaced_pair, Placeless.unplaced_eq]
  infer_instance

instance : IsBlind (joined ends item) := by
  unfold joined
  exact .bind (.iterate (fun items => by infer_instance) []) fun items => inferInstance

instance : IsBlind (pieces ends item) := by
  unfold pieces
  refine .bind (.iterate (fun items => ?_) []) fun items => inferInstance
  refine .bind_placeless inferInstance fun isAtEnd => ?_
  cases isAtEnd with
  | true => exact .pure rfl
  | false =>
      refine .bind inferInstance fun (value, record) => ?_
      refine .bind_placeless inferInstance fun isLast => ?_
      exact .bind inferInstance fun (_, comma) => .pure rfl

end

end

instance [Placed α] (reader' reader : Reader α) [Mirrors reader' reader]
    : Mirrors (verbatim reader') (verbatim reader) :=
  .bind inferInstance fun (value, record) =>
    inferInstanceAs
      (Mirrors (write (unplaced record.given) >>= fun _ => pure (unplaced value))
        (write record.given >>= fun _ => pure value))

/-- Whether something is written as it is given is told without positions. -/
theorem Reader.Mirrors.verbatimIf [Placed α] {isVerbatim : α → Bool} {reader : Reader α}
    [Blind isVerbatim] (inside : IsBlind reader)
    : IsBlind (verbatimIf isVerbatim reader) :=
  .bind inferInstance fun (value, record) => by
    simp only [unplaced_pair, Blind.same isVerbatim]
    split
    · exact inferInstanceAs
        (Mirrors (write (unplaced record.given) >>= fun _ => Pure.pure (unplaced value)) _)
    · exact inferInstanceAs
        (Mirrors (write (unplaced record.written) >>= fun _ => Pure.pure (unplaced value)) _)

instance [Placed α] (isVerbatim : α → Bool) (reader : Reader α) [Blind isVerbatim]
    [inside : IsBlind reader]
    : IsBlind (verbatimIf isVerbatim reader) :=
  .verbatimIf inside

instance [Placed α] (reader : Reader α) [IsBlind reader] : IsBlind (unwritten reader) :=
  .bind inferInstance fun (_, _) => .pure rfl

-----------------------------------------------------------------------------------------
-- Lists that are written when they are known
-----------------------------------------------------------------------------------------

/-- Pieces are joined without positions if they have none, by induction over them. -/
theorem join_unplaced [Placed α] (items : List (Piece α))
    : Piece.join (unplaced items) = unplaced (Piece.join items) := by
  induction items with
  | nil => rfl
  | cons piece rest ih =>
      change Piece.join (unplaced piece :: unplaced rest) = _
      rw [Piece.join, ih, Piece.join]
      have empty : (unplaced piece).comma.isEmpty = piece.comma.isEmpty := List.isEmpty_map
      have last : (unplaced rest).isEmpty = rest.isEmpty := List.isEmpty_map
      rw [empty, last]
      split <;> simp [← append_unplaced] <;> rfl

instance (items' items : List (Piece Bool)) [same : Unplaces items' items]
    : Mirrors (writeLifetimesFirst items') (writeLifetimesFirst items) := by
  have kept (isKept : Bool → Bool)
      : (unplaced items).filter (isKept ·.value) = unplaced (items.filter (isKept ·.value)) :=
    List.filter_map
  have written (items : List (Piece Bool))
      : writeLifetimesFirst items
        = write (Piece.join (items.filter (id ·.value) ++ items.filter (not ·.value))) := by
    rw [writeLifetimesFirst, List.partition_eq_filter_filter]
    rfl
  rw [written, written, same.eq, kept id, kept not, append_unplaced, join_unplaced]
  infer_instance

-----------------------------------------------------------------------------------------
-- Attributes
-----------------------------------------------------------------------------------------

instance : Blind nextPathWord := by unfold nextPathWord; infer_instance

instance : IsBlind plainPath := by
  unfold plainPath
  refine .bind_placeless inferInstance fun isRooted => ?_
  refine .bind_placeless inferInstance fun (names, isOpen) => ?_
  rcases names with _ | ⟨name, _ | _⟩ <;> cases isOpen <;> infer_instance

instance : IsBlind bracketed :=
  .enclosed
    (.bind inferInstance fun _ => .bind_placeless inferInstance fun _ =>
      .bind inferInstance fun _ => .pure rfl)
    fun _ => .pure rfl

instance : IsBlind attributes := by
  unfold attributes
  exact .bind (.iterate (fun found => inferInstance) []) fun found => inferInstance

instance : IsBlind innerAttributes := by
  unfold innerAttributes
  exact .bind (.iterate (fun found => inferInstance) []) fun found => inferInstance

end NestedSelect.Declaration
