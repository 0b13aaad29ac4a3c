import NestedSelect.Declaration.Diagnostic
import NestedSelect.Declaration.Token
/-!
Readers of tokens. A reader takes tokens from the front of those that are left, or it fails. By
its construction every reader keeps to the group that it starts in: it leaves a rest that ends with
the same delimiter, and whatever it finds wrong is placed at a token up to that one, or at the start
of the text where no token is left.
-/

namespace NestedSelect.Declaration

variable {α β σ : Type}

/-- Nothing more is to be read here: no token is left, or the delimiter closes. -/
def atEnd : List Token → Bool
  | [] => true
  | token :: _ => token.isClosing

/-- Where the next token is. -/
def place : List Token → Position
  | [] => .start
  | token :: _ => token.position

/-! ## Groups -/

/-- The contents of a group that has been opened, and what is left from its closing delimiter on.
-/
def splitGroup (depth : Nat) : List Token → List Token × List Token
  | [] => ([], [])
  | token :: rest =>
    match token.kind, depth with
    | .closing _, 0 => ([], token :: rest)
    | .closing _, depth + 1 =>
      let (contents, behind) := splitGroup depth rest
      (token :: contents, behind)
    | .opening _, depth =>
      let (contents, behind) := splitGroup (depth + 1) rest
      (token :: contents, behind)
    | _, depth =>
      let (contents, behind) := splitGroup depth rest
      (token :: contents, behind)

/-- The contents of a group and what follows them are all of it. -/
theorem splitGroup_append (depth : Nat) (tokens : List Token)
    : (splitGroup depth tokens).1 ++ (splitGroup depth tokens).2 = tokens := by
  induction tokens generalizing depth with
  | nil => simp [splitGroup]
  | cons token rest ih =>
    unfold splitGroup
    split
    · simp
    all_goals simp only [List.cons_append, ih]

/-- What is left from the end of a group on. -/
def groupEnd (tokens : List Token) : List Token := (splitGroup 0 tokens).2

theorem groupEnd_suffix (tokens : List Token) : groupEnd tokens <:+ tokens :=
  ⟨(splitGroup 0 tokens).1, splitGroup_append 0 tokens⟩

/-- A delimiter that closes a group ends it. -/
theorem groupEnd_of_atEnd {tokens : List Token} (h : atEnd tokens = true)
    : groupEnd tokens = tokens := by
  cases tokens with
  | nil => rfl
  | cons token rest =>
    obtain ⟨kind, spelling, position⟩ := token
    cases kind <;> first | rfl | cases h

/-- Anything but a delimiter leaves the group as it is. -/
theorem groupEnd_cons {token : Token} (h : token.isDelimiter = false) (rest : List Token)
    : groupEnd (token :: rest) = groupEnd rest := by
  obtain ⟨kind, spelling, position⟩ := token
  cases kind <;> first | rfl | cases h

/-- The end of a group is that of a group in it, and then the end of what follows that one. By
induction over the tokens, with some more groups open inside of the inner one.
-/
theorem splitGroup_snd (outer inner : Nat) (tokens : List Token)
    : (splitGroup (inner + outer + 1) tokens).2
        = (splitGroup outer ((splitGroup inner tokens).2.drop 1)).2 := by
  induction tokens generalizing inner with
  | nil => rfl
  | cons token rest ih =>
    obtain ⟨kind, spelling, position⟩ := token
    cases kind with
    | closing delimiter =>
      cases inner with
      | zero =>
        rw [Nat.zero_add]
        rfl
      | succ inner =>
        rw [Nat.succ_add]
        exact ih inner
    | opening delimiter =>
      have deeper := ih (inner + 1)
      rw [Nat.succ_add] at deeper
      exact deeper
    | _ => exact ih inner

theorem groupEnd_opening {token : Token} {delimiter : Delimiter}
    (h : token.isOpening delimiter = true) (rest : List Token)
    : groupEnd (token :: rest) = groupEnd ((groupEnd rest).drop 1) := by
  obtain ⟨kind, spelling, position⟩ := token
  obtain rfl : kind = .opening delimiter := of_decide_eq_true h
  exact splitGroup_snd 0 0 rest

/-- The end of a group is its own end. -/
theorem atEnd_groupEnd (tokens : List Token) : atEnd (groupEnd tokens) = true := by
  have h (depth : Nat) : atEnd (splitGroup depth tokens).2 = true := by
    induction tokens generalizing depth with
    | nil => rfl
    | cons token rest ih =>
      obtain ⟨kind, spelling, position⟩ := token
      cases kind with
      | closing delimiter =>
        cases depth with
        | zero => rfl
        | succ depth => exact ih depth
      | opening delimiter => exact ih (depth + 1)
      | _ => exact ih depth
  exact h 0

/-- Tokens among which there is no delimiter may be left out. -/
theorem groupEnd_drop {count : Nat} {tokens : List Token}
    (h : (tokens.take count).all (!·.isDelimiter) = true)
    : groupEnd (tokens.drop count) = groupEnd tokens := by
  induction count generalizing tokens with
  | zero => rfl
  | succ count ih =>
    cases tokens with
    | nil => rfl
    | cons token rest =>
      simp only [List.take_succ_cons, List.all_cons, Bool.and_eq_true, Bool.not_eq_true'] at h
      rw [List.drop_succ_cons, ih h.2, groupEnd_cons h.1]

/-! ## Progress -/

/-- How far the reading of some tokens has come. -/
structure Progress where
  /-- The tokens that are left. -/
  rest : List Token
  /-- The tokens that have been read, in the form in which they are written out again, the last
  one first.
  -/
  written : List Token
  /-- Where the first tokens were left over in a group. -/
  leftover : Option Position

namespace Progress

/-- An error may be placed here: at what is left, up to the end of the group. Where no token is left
that is the start of the text.
-/
def Offers (progress : Progress) (position : Position) : Prop :=
  ∃ rest, groupEnd progress.rest <:+ rest ∧ rest <:+ progress.rest ∧ place rest = position

theorem offers_place (progress : Progress) : progress.Offers (place progress.rest) :=
  ⟨_, groupEnd_suffix _, List.suffix_refl _, rfl⟩

/-- What may come of reading on: a rest of the same group, and leftovers in it. The first leftovers
are kept.
-/
structure Leads (before after : Progress) : Prop where
  suffix : after.rest <:+ before.rest
  group : groupEnd after.rest = groupEnd before.rest
  kept : ∀ {position}, before.leftover = some position → after.leftover = some position
  leftover : ∀ {position}, after.leftover = some position →
    before.leftover = some position ∨ before.Offers position

variable {before middle after : Progress} {position : Position}

/-- What a rest offers has been offered from the start. -/
theorem Leads.offers (h : before.Leads after) (offered : after.Offers position)
    : before.Offers position := by
  obtain ⟨rest, ends, suffix, placed⟩ := offered
  exact ⟨rest, h.group ▸ ends, suffix.trans h.suffix, placed⟩

theorem Leads.refl (progress : Progress) : progress.Leads progress :=
  ⟨List.suffix_refl _, rfl, id, .inl⟩

theorem Leads.trans (first : before.Leads middle) (second : middle.Leads after)
    : before.Leads after where
  suffix := second.suffix.trans first.suffix
  group := second.group.trans first.group
  kept h := second.kept (first.kept h)
  leftover h := (second.leftover h).elim first.leftover fun offered => .inr (first.offers offered)

/-- Only the tokens that are left and the leftovers bear on what comes of reading on. -/
theorem Leads.of_rest_eq (rest : after.rest = before.rest)
    (leftover : after.leftover = before.leftover) : before.Leads after :=
  ⟨rest ▸ List.suffix_refl _, congrArg groupEnd rest, leftover.trans, fun h => .inl (leftover ▸ h)⟩

end Progress

/-- What reading comes to: a value and how far it has come, or what is wrong. -/
abbrev Outcome (α : Type) := Except Diagnostic (α × Progress)

/-- The outcome keeps to the tokens that were given. -/
structure Outcome.Keeps (before : Progress) (outcome : Outcome α) : Prop where
  leads : ∀ {value after}, outcome = .ok (value, after) → before.Leads after
  placed : ∀ {diagnostic}, outcome = .error diagnostic → before.Offers diagnostic.position

namespace Outcome

variable {before middle after : Progress}

theorem keeps_ok {value : α} (h : before.Leads after)
    : Outcome.Keeps before (.ok (value, after)) :=
  ⟨fun | rfl => h, nofun⟩

theorem keeps_error {diagnostic : Diagnostic} (h : before.Offers diagnostic.position)
    : Outcome.Keeps before (.error diagnostic : Outcome α) :=
  ⟨nofun, fun | rfl => h⟩

/-- Whatever keeps to a rest keeps to the whole. -/
theorem Keeps.behind {outcome : Outcome α} (h : outcome.Keeps middle)
    (leads : before.Leads middle) : outcome.Keeps before :=
  ⟨fun equal => leads.trans (h.leads equal), fun equal => leads.offers (h.placed equal)⟩

end Outcome

/-- A reader: what it comes to at any tokens, and that it keeps to them. -/
structure Reader (α : Type) where
  run : Progress → Outcome α
  keeps : ∀ before, (run before).Keeps before

namespace Reader

/-! ## One after the other -/

/-- Read one thing, and then another one that depends on it. -/
def runBoth (first : Reader α) (next : α → Reader β) (before : Progress) : Outcome β :=
  match first.run before with
  | .ok (value, middle) => (next value).run middle
  | .error diagnostic => .error diagnostic

theorem runBoth_keeps (first : Reader α) (next : α → Reader β) (before : Progress)
    : (runBoth first next before).Keeps before := by
  have h := first.keeps before
  unfold runBoth
  split
  case h_1 value middle equal => exact ((next value).keeps middle).behind (h.leads equal)
  case h_2 diagnostic equal => exact Outcome.keeps_error (h.placed equal)

instance : Monad Reader where
  pure value :=
    ⟨fun before => .ok (value, before), fun before => Outcome.keeps_ok (.refl before)⟩
  bind first next := ⟨runBoth first next, runBoth_keeps first next⟩

/-- A reader that is made only when it runs. -/
def delay (reader : Unit → Reader α) : Reader α :=
  ⟨fun before => (reader ()).run before, fun before => (reader ()).keeps before⟩

/-- Go on from one state to the next for as long as there is one, a number of times at most. -/
def iterateFor (step : σ → Reader (Option σ)) : Nat → σ → Reader σ
  | 0, state => pure state
  | times + 1, state => do
    match ← step state with
    | some state => iterateFor step times state
    | none => return state

/-! ## Tokens -/

/-- Look at the tokens that are left. -/
def look (view : List Token → α) : Reader α :=
  ⟨fun before => .ok (view before.rest, before), fun before => Outcome.keeps_ok (.refl before)⟩

/-- There is something wrong with the next token. -/
def fail (fault : List Token → Fault) : Reader α :=
  ⟨fun before => .error ⟨fault before.rest, place before.rest⟩,
    fun before => Outcome.keeps_error before.offers_place⟩

/-- What is left behind some tokens. They are written as they are. -/
def Progress.behind (before : Progress) (count : Nat) : Progress :=
  { before with
    rest := before.rest.drop count
    written := (before.rest.take count).reverse ++ before.written }

/-- Take the next tokens. None of them may be a delimiter. -/
def runTake (count : Nat) (before : Progress) : Outcome Unit :=
  if (before.rest.take count).all (!·.isDelimiter) then .ok ((), Progress.behind before count)
  else .error ⟨.unexpectedToken, place before.rest⟩

theorem runTake_keeps (count : Nat) (before : Progress) : (runTake count before).Keeps before := by
  unfold runTake
  split
  case isTrue plain =>
    exact Outcome.keeps_ok ⟨List.drop_suffix _ _, groupEnd_drop plain, id, .inl⟩
  case isFalse => exact Outcome.keeps_error before.offers_place

/-- Take the next tokens. None of them may be a delimiter. -/
def take (count : Nat) : Reader Unit := ⟨runTake count, runTake_keeps count⟩

/-- All tokens up to the end of the group in which they stand. -/
def allTokens : Reader (List Token) where
  run before :=
    let contents := (splitGroup 0 before.rest).1
    .ok (contents,
      { before with rest := groupEnd before.rest, written := contents.reverse ++ before.written })
  keeps _ :=
    Outcome.keeps_ok ⟨groupEnd_suffix _, groupEnd_of_atEnd (atEnd_groupEnd _), id, .inl⟩

/-- The number of tokens that are left. -/
def remaining : Reader Nat := look List.length

/-- Go on from one state to the next for as long as there is one. Each step has to take a token,
and so no more steps are needed than there are tokens.
-/
def iterate (step : σ → Reader (Option σ)) (state : σ) : Reader σ := do
  iterateFor step ((← remaining) + 1) state

/-! ## What is written -/

/-- Change what has been written. -/
def rewrite (change : List Token → List Token) : Reader Unit :=
  ⟨fun before => .ok ((), { before with written := change before.written }),
    fun _ => Outcome.keeps_ok (.of_rest_eq rfl rfl)⟩

/-- Write some tokens. -/
def write (tokens : List Token) : Reader Unit := rewrite (tokens.reverse ++ ·)

/-- The last tokens are not to be written after all. -/
def retract (count : Nat) : Reader Unit := rewrite (List.drop count)

/-- Tokens that have been read, as they were given and as they are to be written. -/
structure Record where
  given : List Token
  written : List Token

/-- Read without writing. What was read and would have been written comes with the value. -/
def runRecorded (reader : Reader α) (before : Progress) : Outcome (α × Record) :=
  match reader.run { before with written := [] } with
  | .ok (value, after) =>
    let given := before.rest.take (before.rest.length - after.rest.length)
    .ok ((value, ⟨given, after.written.reverse⟩), { after with written := before.written })
  | .error diagnostic => .error diagnostic

theorem runRecorded_keeps (reader : Reader α) (before : Progress)
    : (runRecorded reader before).Keeps before := by
  have fresh : before.Leads { before with written := [] } := .of_rest_eq rfl rfl
  have h := (reader.keeps { before with written := [] }).behind fresh
  unfold runRecorded
  split
  case h_1 value after equal =>
    exact Outcome.keeps_ok ((h.leads equal).trans (.of_rest_eq rfl rfl))
  case h_2 diagnostic equal => exact Outcome.keeps_error (h.placed equal)

/-- Read without writing. What was read and would have been written comes with the value. -/
def recorded (reader : Reader α) : Reader (α × Record) :=
  ⟨runRecorded reader, runRecorded_keeps reader⟩

/-- Write what is read as it was given. -/
def verbatim (reader : Reader α) : Reader α := do
  let (value, record) ← recorded reader
  write record.given
  return value

/-- Write what is read as it was given if the value says so. -/
def verbatimIf (isVerbatim : α → Bool) (reader : Reader α) : Reader α := do
  let (value, record) ← recorded reader
  write (if isVerbatim value then record.given else record.written)
  return value

/-- Read without writing. -/
def unwritten (reader : Reader α) : Reader α := do
  let (value, _) ← recorded reader
  return value

/-! ## Faults of a whole -/

/-- A fault that shows only at the end of something is placed where that starts. -/
def runWhole (reader : Reader (Except Fault α)) (before : Progress) : Outcome α :=
  match reader.run before with
  | .ok (.ok value, after) => .ok (value, after)
  | .ok (.error fault, _) => .error ⟨fault, place before.rest⟩
  | .error diagnostic => .error diagnostic

theorem runWhole_keeps (reader : Reader (Except Fault α)) (before : Progress)
    : (runWhole reader before).Keeps before := by
  have h := reader.keeps before
  unfold runWhole
  split
  case h_1 value after equal => exact Outcome.keeps_ok (h.leads equal)
  case h_2 => exact Outcome.keeps_error before.offers_place
  case h_3 diagnostic equal => exact Outcome.keeps_error (h.placed equal)

/-- A fault that shows only at the end of something is placed where that starts. -/
def whole (reader : Reader (Except Fault α)) : Reader α :=
  ⟨runWhole reader, runWhole_keeps reader⟩

/-- Read something if it is there. Where it is not, nothing is read. -/
def runAttempt (reader : Reader (Option α)) (before : Progress) : Outcome (Option α) :=
  match reader.run before with
  | .ok (some value, after) => .ok (some value, after)
  | _ => .ok (none, before)

theorem runAttempt_keeps (reader : Reader (Option α)) (before : Progress)
    : (runAttempt reader before).Keeps before := by
  have h := reader.keeps before
  unfold runAttempt
  split
  case h_1 value after equal => exact Outcome.keeps_ok (h.leads equal)
  case h_2 => exact Outcome.keeps_ok (.refl before)

/-- Read something if it is there. Where it is not, nothing is read. -/
def attempt (reader : Reader (Option α)) : Reader (Option α) :=
  ⟨runAttempt reader, runAttempt_keeps reader⟩

/-! ## Groups of tokens -/

/-- What is left behind the end of a group. -/
def Progress.closed (before : Progress) : Progress :=
  let rest := groupEnd before.rest
  { before with rest := rest.drop 1, written := (rest.take 1).reverse ++ before.written }

/-- Leave a group and read on. What is left over in the group counts from then on. -/
def runClosing (next : Reader α) (before : Progress) : Outcome α :=
  match next.run (Progress.closed before) with
  | .ok (value, after) =>
    let found := if atEnd before.rest then none else some (place before.rest)
    .ok (value, { after with leftover := after.leftover.or found })
  | .error diagnostic => .error diagnostic

/-- A group, and behind it something that depends on its contents. There is something wrong with the
next token where it does not open such a group.
-/
def runEnclosed (delimiter : Delimiter) (fault : List Token → Fault) (contents : Reader α)
    (next : α → Reader β) (before : Progress) : Outcome β :=
  if before.rest.head?.any (·.isOpening delimiter) then
    match contents.run (Progress.behind before 1) with
    | .ok (value, middle) => runClosing (next value) middle
    | .error diagnostic => .error diagnostic
  else .error ⟨fault before.rest, place before.rest⟩

section

variable {before middle : Progress} {delimiter : Delimiter} {position : Position}

/-- What is left in front of a group, behind the group. -/
theorem Progress.groupEnd_opened (opens : before.rest.head?.any (·.isOpening delimiter) = true)
    : groupEnd before.rest = groupEnd ((groupEnd (behind before 1).rest).drop 1) := by
  obtain ⟨tokens, written, leftover⟩ := before
  cases tokens with
  | nil => cases opens
  | cons token rest => exact groupEnd_opening opens rest

/-- What a group offers is offered in front of it. -/
theorem Progress.offers_of_opened (opens : before.rest.head?.any (·.isOpening delimiter) = true)
    (offered : (behind before 1).Offers position) : before.Offers position := by
  obtain ⟨rest, ends, suffix, placed⟩ := offered
  refine ⟨rest, ?_, suffix.trans (List.drop_suffix 1 _), placed⟩
  rw [groupEnd_opened opens]
  exact ((groupEnd_suffix _).trans (List.drop_suffix 1 _)).trans ends

/-- Reading goes on behind a group that has been read. -/
theorem Progress.leads_closed (opens : before.rest.head?.any (·.isOpening delimiter) = true)
    (inside : (behind before 1).Leads middle) : before.Leads (closed middle) where
  suffix :=
    ((List.drop_suffix 1 _).trans (groupEnd_suffix _)).trans
      (inside.suffix.trans (List.drop_suffix 1 _))
  group := by rw [groupEnd_opened opens, ← inside.group]; rfl
  kept h := inside.kept h
  leftover h := (inside.leftover h).imp id (offers_of_opened opens)

end

theorem runEnclosed_keeps (delimiter : Delimiter) (fault : List Token → Fault)
    (contents : Reader α) (next : α → Reader β) (before : Progress)
    : (runEnclosed delimiter fault contents next before).Keeps before := by
  unfold runEnclosed
  split
  case isFalse => exact Outcome.keeps_error before.offers_place
  case isTrue opens =>
    have inner := contents.keeps (Progress.behind before 1)
    split
    case h_2 diagnostic equal =>
      exact Outcome.keeps_error (Progress.offers_of_opened opens (inner.placed equal))
    case h_1 value middle equal =>
      have inside := inner.leads equal
      have leads := Progress.leads_closed opens inside
      have outer := ((next value).keeps (Progress.closed middle)).behind leads
      unfold runClosing
      split
      case h_2 diagnostic equal => exact Outcome.keeps_error (outer.placed equal)
      case h_1 result after equal =>
        have behind := outer.leads equal
        refine Outcome.keeps_ok ⟨behind.suffix, behind.group, fun h => ?_, fun h => ?_⟩
        · simp only [behind.kept h, Option.some_or]
        · rcases Option.or_eq_some_iff.1 h with kept | ⟨_, new⟩
          · exact behind.leftover kept
          · split at new
            · cases new
            · cases new
              exact .inr (Progress.offers_of_opened opens (inside.offers middle.offers_place))

/-- A group, and behind it something that depends on its contents. There is something wrong with the
next token where it does not open such a group.
-/
def enclosed (delimiter : Delimiter) (fault : List Token → Fault) (contents : Reader α)
    (next : α → Reader β) : Reader β :=
  ⟨runEnclosed delimiter fault contents next, runEnclosed_keeps delimiter fault contents next⟩

/-! ## All of some tokens -/

/-- Read all of some tokens. What is left over is reported where nothing else is wrong, and first
what is left over in a group.
-/
def readAll (reader : Reader α) (tokens : List Token) : Except Diagnostic α :=
  match reader.run ⟨tokens, [], none⟩ with
  | .error diagnostic => .error diagnostic
  | .ok (value, after) =>
    match after.leftover, after.rest with
    | some position, _ => .error ⟨.unexpectedToken, position⟩
    | none, [] => .ok value
    | none, token :: _ => .error ⟨.unexpectedToken, token.position⟩

end Reader

end NestedSelect.Declaration
