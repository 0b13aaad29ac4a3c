import NestedSelect.Declaration.ForeignKey
import NestedSelect.Declaration.Member
/-!
Runs of readers that succeed. A reader that is made of others succeeds exactly if these do, one
after another, and what the readers of attributes accept can be told from the tokens alone.
-/

namespace NestedSelect.Declaration

open Reader

namespace Reader

variable {α β : Type}

-----------------------------------------------------------------------------------------
-- Readers made of others
-----------------------------------------------------------------------------------------

/-- One reader behind another one succeeds exactly if both do in turn. -/
theorem run_bind_eq_ok_iff (first : Reader α) (next : α → Reader β) (before after : Progress)
    (result : β)
    : (first >>= next).run before = .ok (result, after)
      ↔ ∃ value middle,
          first.run before = .ok (value, middle)
            ∧ (next value).run middle = .ok (result, after) := by
  change runBoth first next before = _ ↔ _
  unfold runBoth
  cases first.run before with
  | error diagnostic => simp
  | ok found =>
      constructor
      · exact fun success => ⟨found.1, found.2, rfl, success⟩
      · rintro ⟨value, middle, same, success⟩
        cases same
        exact success

theorem leads_of_run {reader : Reader α} {before after : Progress} {value : α}
    (ran : reader.run before = .ok (value, after))
    : before.Leads after :=
  (reader.keeps before).leads ran

/-- One reader behind another one fails exactly if one of the two does in turn. -/
theorem run_bind_eq_error_iff (first : Reader α) (next : α → Reader β) (before : Progress)
    (diagnostic : Diagnostic)
    : (first >>= next).run before = .error diagnostic
      ↔ first.run before = .error diagnostic
        ∨ ∃ value middle,
            first.run before = .ok (value, middle)
            ∧ (next value).run middle = .error diagnostic := by
  change runBoth first next before = _ ↔ _
  unfold runBoth
  cases first.run before with
  | error found => simp
  | ok found =>
      constructor
      · exact fun failure => .inr ⟨found.1, found.2, rfl, failure⟩
      · rintro (impossible | ⟨value, middle, same, failure⟩)
        · cases impossible
        · cases same
          exact failure

theorem run_pure_eq_ok_iff (value result : α) (before after : Progress)
    : (pure value : Reader α).run before = .ok (result, after)
      ↔ value = result ∧ before = after := by
  change Except.ok (value, before) = _ ↔ _
  simp

theorem run_look_eq_ok_iff (view : List Token → α) (before after : Progress) (result : α)
    : (look view).run before = .ok (result, after)
      ↔ view before.rest = result ∧ before = after := by
  change Except.ok (view before.rest, before) = _ ↔ _
  simp

/-- One of two readers is run, by what comes next. -/
theorem run_if_sees {what : Lookahead} {first second : Reader α} {before : Progress}
    {outcome : Outcome α}
    (ran : (do if ← sees what then first else second : Reader α).run before = outcome)
    : what before.rest = true ∧ first.run before = outcome
      ∨ what before.rest = false ∧ second.run before = outcome := by
  change (if what before.rest = true then first else second).run before = outcome at ran
  cases seen : what before.rest with
  | true => exact .inl ⟨rfl, by rwa [seen, if_pos rfl] at ran⟩
  | false => exact .inr ⟨rfl, by rwa [seen, if_neg Bool.false_ne_true] at ran⟩

/-- What is read as a whole succeeds exactly if nothing shows to be wrong at its end. -/
theorem run_whole_eq_ok_iff (reader : Reader (Except Fault α)) (before after : Progress)
    (result : α)
    : (whole reader).run before = .ok (result, after)
      ↔ reader.run before = .ok (.ok result, after) := by
  change runWhole reader before = _ ↔ _
  unfold runWhole
  split
  case h_1 value middle equal => simp [equal]
  case h_2 fault middle equal => simp [equal]
  case h_3 diagnostic equal => simp [equal]

/-- What is recorded is read as if nothing had been written before. -/
theorem run_recorded_eq_ok_iff (reader : Reader α) (before after : Progress)
    (found : α × Record)
    : (recorded reader).run before = .ok (found, after)
      ↔ ∃ inner,
          reader.run { before with written := [] } = .ok (found.1, inner)
          ∧ ⟨before.rest.take (before.rest.length - inner.rest.length), inner.written.reverse⟩
            = found.2
          ∧ { inner with written := before.written } = after := by
  obtain ⟨result, record⟩ := found
  change runRecorded reader before = _ ↔ _
  unfold runRecorded
  cases reader.run { before with written := [] } with
  | error diagnostic => simp
  | ok read =>
      constructor
      · rintro ⟨⟩
        exact ⟨read.2, rfl, rfl, rfl⟩
      · rintro ⟨inner, ⟨⟩, rfl, rfl⟩
        rfl

theorem run_write_eq_ok_iff (tokens : List Token) (before after : Progress) (done : Unit)
    : (write tokens).run before = .ok (done, after)
      ↔ { before with written := tokens.reverse ++ before.written } = after := by
  change Except.ok ((), _) = _ ↔ _
  simp

/-- All of some tokens are read exactly if a run over them leaves none behind. -/
theorem readAll_eq_ok_iff (reader : Reader α) (tokens : List Token) (result : α)
    : readAll reader tokens = .ok result
      ↔ ∃ after,
          reader.run ⟨tokens, [], none⟩ = .ok (result, after)
            ∧ after.leftover = none ∧ after.rest = [] := by
  unfold readAll
  cases reader.run ⟨tokens, [], none⟩ with
  | error diagnostic => simp
  | ok found =>
      obtain ⟨value, rest, written, leftover⟩ := found
      constructor
      · intro success
        cases leftover with
        | some position => cases success
        | none =>
            cases rest with
            | cons token others => cases success
            | nil =>
                cases success
                exact ⟨_, rfl, rfl, rfl⟩
      · rintro ⟨after, same, kept, none⟩
        cases same
        cases kept
        cases none
        rfl

/-- Where not all of some tokens are read, the run over them fails or leaves something over, and
what is left over in a group counts first.
-/
theorem run_of_readAll_eq_error {reader : Reader α} {tokens : List Token} {diagnostic : Diagnostic}
    (failure : readAll reader tokens = .error diagnostic)
    : reader.run ⟨tokens, [], none⟩ = .error diagnostic
      ∨ ∃ value after,
          reader.run ⟨tokens, [], none⟩ = .ok (value, after)
          ∧ (after.leftover = some diagnostic.position
            ∨ after.leftover = none
              ∧ ∃ token rest,
                  after.rest = token :: rest ∧ token.position = diagnostic.position) := by
  unfold readAll at failure
  split at failure
  case h_1 found ran =>
    cases failure
    exact .inl ran
  case h_2 value after ran =>
    refine .inr ⟨value, after, ran, ?_⟩
    split at failure
    case h_1 position rest left =>
      cases failure
      exact .inl left
    case h_2 => cases failure
    case h_3 token rest kept left =>
      cases failure
      exact .inr ⟨kept, token, rest, left, rfl⟩

/-- Some tokens are taken exactly if none of them is a delimiter. -/
theorem run_take_eq_ok_iff (count : Nat) (before after : Progress) (done : Unit)
    : (take count).run before = .ok (done, after)
      ↔ (before.rest.take count).all (!·.isDelimiter) = true
        ∧ Progress.behind before count = after := by
  change runTake count before = _ ↔ _
  unfold runTake
  split
  case isTrue plain => simp [plain]
  case isFalse delimited => simp [delimited]

/-- How far the reading has come when a group has been left. -/
def Progress.leave (before : Progress) : Progress :=
  let found := if atEnd before.rest then none else some (place before.rest)
  { Progress.closed before with leftover := before.leftover.or found }

theorem Progress.leave_suffix (middle : Progress)
    : (Progress.leave middle).rest <:+ middle.rest :=
  (List.drop_suffix 1 _).trans (groupEnd_suffix _)

/-- A group is left in the same way whatever has been read in it. -/
theorem run_group_eq_ok_iff (delimiter : Delimiter) (contents : Reader α) (before after : Progress)
    (result : α)
    : (group delimiter contents).run before = .ok (result, after)
      ↔ before.rest.head?.any (·.isOpening delimiter) = true
        ∧ ∃ middle,
            contents.run (Progress.behind before 1) = .ok (result, middle)
            ∧ Progress.leave middle = after := by
  change runEnclosed delimiter _ contents pure before = _ ↔ _
  unfold runEnclosed
  split
  case isFalse closed => simp [closed]
  case isTrue opens =>
    cases contents.run (Progress.behind before 1) with
    | error diagnostic => simp
    | ok found =>
        change Except.ok (found.1, Progress.leave found.2) = _ ↔ _
        constructor
        · rintro ⟨⟩
          exact ⟨opens, found.2, rfl, rfl⟩
        · rintro ⟨-, middle, ⟨⟩, rfl⟩
          rfl

end Reader

/-- What is read in a group on the way to a result shows in what the group is read as, if it shows
in what its contents are read as.
-/
theorem run_group_congr {α β : Type} {contents : Reader α} {others : Reader β} {result : α}
    {Fits : β → Prop}
    (same
      : ∀ before after, contents.run before = .ok (result, after)
          ↔ ∃ value, others.run before = .ok (value, after) ∧ Fits value)
    (delimiter : Delimiter) (before after : Progress)
    : (group delimiter contents).run before = .ok (result, after)
      ↔ ∃ value, (group delimiter others).run before = .ok (value, after) ∧ Fits value := by
  simp only [run_group_eq_ok_iff, same]
  constructor
  · rintro ⟨opens, middle, ⟨value, inside, fits⟩, left⟩
    exact ⟨value, ⟨opens, middle, inside, left⟩, fits⟩
  · rintro ⟨value, ⟨opens, middle, inside, left⟩, fits⟩
    exact ⟨opens, middle, ⟨value, inside, fits⟩, left⟩

-----------------------------------------------------------------------------------------
-- Words
-----------------------------------------------------------------------------------------

/-- A token that is expected is read where it comes next. -/
theorem run_expect {what : String} {property : Token → Bool} {token : Token} {rest : List Token}
    (fits : property token = true) (plain : token.isDelimiter = false) (written : List Token)
    (leftover : Option Position)
    : (expect what property).run ⟨token :: rest, written, leftover⟩
        = .ok (token, ⟨rest, token :: written, leftover⟩) := by
  have looked
      : (look fun tokens => tokens.head?.filter property).run ⟨token :: rest, written, leftover⟩
          = .ok (some token, ⟨token :: rest, written, leftover⟩) :=
    (run_look_eq_ok_iff _ _ _ _).mpr ⟨by simp [fits], rfl⟩
  refine (run_bind_eq_ok_iff _ _ _ _ _).mpr ⟨some token, _, looked, ?_⟩
  refine (run_bind_eq_ok_iff _ _ _ _ _).mpr ⟨(), _, ?_, rfl⟩
  exact (run_take_eq_ok_iff _ _ _ _).mpr ⟨by simp [plain], rfl⟩

/-- A token that is expected is read exactly where it comes next. -/
theorem run_expect_eq_ok_iff {what : String} {property : Token → Bool}
    (plain : ∀ token : Token, property token = true → token.isDelimiter = false)
    (before after : Progress) (token : Token)
    : (expect what property).run before = .ok (token, after)
      ↔ ∃ rest,
          before.rest = token :: rest ∧ property token = true
          ∧ ⟨rest, token :: before.written, before.leftover⟩ = after := by
  obtain ⟨tokens, written, leftover⟩ := before
  constructor
  · intro success
    obtain ⟨found, middle, looked, taken⟩ := (run_bind_eq_ok_iff _ _ _ _ _).mp success
    obtain ⟨rfl, rfl⟩ := (run_look_eq_ok_iff _ _ _ _).mp looked
    cases tokens with
    | nil => cases taken
    | cons next rest =>
        cases fits : property next with
        | false =>
            rw [List.head?_cons, Option.filter_some, fits] at taken
            cases taken
        | true =>
            rw [List.head?_cons, Option.filter_some, fits, if_pos rfl] at taken
            obtain ⟨⟨⟩, _, moved, done⟩ := (run_bind_eq_ok_iff _ _ _ _ _).mp taken
            obtain ⟨-, rfl⟩ := (run_take_eq_ok_iff _ _ _ _).mp moved
            obtain ⟨rfl, rfl⟩ := (run_pure_eq_ok_iff _ _ _ _).mp done
            exact ⟨rest, rfl, fits, rfl⟩
  · rintro ⟨rest, rfl, fits, rfl⟩
    exact run_expect fits (plain token fits) written leftover

theorem Token.isDelimiter_of_isWord {token : Token} {spelling : String}
    (fits : token.isWord spelling = true) : token.isDelimiter = false := by
  rw [isWord, Bool.and_eq_true, decide_eq_true_eq] at fits
  rw [isDelimiter, fits.1]

/-- A word that may be missing is read exactly where it comes next. -/
theorem run_wordIf (spelling : String) (before : Progress)
    : (wordIf spelling).run before
        = .ok (nextWord spelling before.rest,
            if nextWord spelling before.rest then Progress.behind before 1 else before) := by
  obtain ⟨tokens, written, leftover⟩ := before
  refine (run_bind_eq_ok_iff _ _ _ _ _).mpr ⟨nextWord spelling tokens, _, rfl, ?_⟩
  cases next : nextWord spelling tokens with
  | false => rfl
  | true =>
      cases tokens with
      | nil => cases next
      | cons token rest =>
          have fits : token.isWord spelling = true := next
          have taken
              : (expect (named spelling) (·.isWord spelling)).run ⟨token :: rest, written, leftover⟩
                  = .ok (token, _) :=
            run_expect fits (Token.isDelimiter_of_isWord fits) written leftover
          refine (run_bind_eq_ok_iff _ _ _ _ _).mpr ⟨(), _, ?_, rfl⟩
          exact (run_bind_eq_ok_iff _ _ _ _ _).mpr ⟨token, _, taken, rfl⟩

-----------------------------------------------------------------------------------------
-- Names and marks
-----------------------------------------------------------------------------------------

namespace Token

variable {token : Token}

theorem isDelimiter_of_isIdentifier (fits : token.isIdentifier = true)
    : token.isDelimiter = false := by
  rw [isIdentifier, Bool.and_eq_true, decide_eq_true_eq] at fits
  rw [isDelimiter, fits.1]

theorem isDelimiter_of_isMark {c : Char} (fits : token.isMark c = true)
    : token.isDelimiter = false := by
  obtain ⟨kind, spelling, position⟩ := token
  cases kind <;> first | rfl | cases fits

theorem isMark_of_isJointMark {c : Char} (fits : token.isJointMark c = true)
    : token.isMark c = true := by
  rw [isJointMark, decide_eq_true_eq] at fits
  simp [isMark, fits]

end Token

/-- A name is read exactly where it comes next. -/
theorem run_identifier_eq_ok_iff (before after : Progress) (name : String)
    : identifier.run before = .ok (name, after)
      ↔ ∃ token rest,
          before.rest = token :: rest ∧ token.isIdentifier = true ∧ token.spelling = name
          ∧ ⟨rest, token :: before.written, before.leftover⟩ = after := by
  have plain (token : Token) (fits : token.isIdentifier = true) : token.isDelimiter = false :=
    Token.isDelimiter_of_isIdentifier fits
  unfold identifier
  simp only [run_bind_eq_ok_iff, run_expect_eq_ok_iff plain, run_pure_eq_ok_iff]
  constructor
  · rintro ⟨token, _, ⟨rest, same, fits, rfl⟩, rfl, rfl⟩
    exact ⟨token, rest, same, fits, rfl, rfl⟩
  · rintro ⟨token, rest, same, fits, rfl, rfl⟩
    exact ⟨token, _, ⟨rest, same, fits, rfl⟩, rfl, rfl⟩

/-- Marks that come next are no delimiters, by induction over the marks. -/
theorem all_plain_of_nextAllMarks {marks : List Char} {tokens : List Token}
    (next : nextAllMarks marks tokens = true)
    : (tokens.take marks.length).all (!·.isDelimiter) = true := by
  induction marks generalizing tokens with
  | nil => rfl
  | cons c others ih =>
      cases tokens with
      | nil => rfl
      | cons token rest =>
          rw [nextAllMarks] at next
          rw [List.length_cons, List.take_succ_cons, List.all_cons, Bool.and_eq_true,
            Bool.not_eq_true']
          split at next
          case isTrue last =>
            obtain rfl := List.isEmpty_iff.mp last
            exact ⟨Token.isDelimiter_of_isMark next, rfl⟩
          case isFalse more =>
            obtain ⟨joint, behind⟩ := (Bool.and_eq_true _ _).mp next
            exact ⟨Token.isDelimiter_of_isMark (Token.isMark_of_isJointMark joint), ih behind⟩

/-- Marks are read exactly where they come next. -/
theorem run_marks_eq_ok_iff (spelling : String) (before after : Progress) (done : Unit)
    : (marks spelling).run before = .ok (done, after)
      ↔ nextMarks spelling before.rest = true
        ∧ Progress.behind before spelling.length = after := by
  unfold marks sees
  simp only [run_bind_eq_ok_iff, run_look_eq_ok_iff]
  constructor
  · rintro ⟨seen, middle, ⟨rfl, rfl⟩, taken⟩
    cases next : nextMarks spelling before.rest with
    | false =>
        rw [next] at taken
        cases taken
    | true =>
        rw [next, if_pos rfl] at taken
        exact ⟨rfl, ((run_take_eq_ok_iff _ _ _ _).mp taken).2⟩
  · rintro ⟨next, rfl⟩
    refine ⟨_, before, ⟨next, rfl⟩, ?_⟩
    rw [if_pos rfl]
    refine (run_take_eq_ok_iff _ _ _ _).mpr ⟨?_, rfl⟩
    rw [← String.length_toList]
    exact all_plain_of_nextAllMarks next

-----------------------------------------------------------------------------------------
-- Texts
-----------------------------------------------------------------------------------------

/-- A single string literal is read as the text that it denotes. -/
theorem readAll_stringLiteral_eq_ok_iff (tokens : List Token) (result : String)
    : readAll stringLiteral tokens = .ok result
      ↔ ∃ spelling position, tokens = [⟨.text result, spelling, position⟩] := by
  match tokens with
  | [] => exact ⟨nofun, nofun⟩
  | ⟨kind, spelling, position⟩ :: rest =>
      cases kind with
      | text value =>
          cases rest with
          | nil =>
              change Except.ok value = _ ↔ _
              simp
          | cons token others => exact ⟨nofun, nofun⟩
      | _ => exact ⟨nofun, nofun⟩

/-- A string literal behind an equals sign is read as the text that it denotes, and where it is. -/
theorem readAll_textArgument_eq_ok_iff (tokens : List Token) (result : String) (place : Position)
    : readAll textArgument tokens = .ok (result, place)
      ↔ ∃ joint sign equals spelling,
          tokens = [⟨.mark '=' joint, sign, equals⟩, ⟨.text result, spelling, place⟩] := by
  match tokens with
  | [] => exact ⟨nofun, nofun⟩
  | ⟨.mark c joint, sign, equals⟩ :: rest =>
      by_cases same : '=' = c
      · subst same
        match rest with
        | [] => exact ⟨nofun, nofun⟩
        | [⟨.text value, spelling, position⟩] =>
            change Except.ok (value, position) = _ ↔ _
            simp
        | ⟨.text value, spelling, position⟩ :: token :: others => exact ⟨nofun, nofun⟩
        | ⟨.word, _, _⟩ :: _ | ⟨.mark _ _, _, _⟩ :: _ | ⟨.number, _, _⟩ :: _
        | ⟨.literal, _, _⟩ :: _ | ⟨.opening _, _, _⟩ :: _ | ⟨.closing _, _, _⟩ :: _ =>
            exact ⟨nofun, nofun⟩
      · constructor
        · intro success
          obtain ⟨after, ran, -⟩ := (readAll_eq_ok_iff _ _ _).mp success
          obtain ⟨⟨⟩, middle, first, -⟩ := (run_bind_eq_ok_iff _ _ _ _ _).mp ran
          change (if decide ('=' = c) = true then take 1 else fail _).run _ = _ at first
          rw [if_neg (by simpa using same)] at first
          exact nomatch first
        · rintro ⟨_, _, _, _, found⟩
          cases found
          exact absurd rfl same
  | ⟨.word, _, _⟩ :: _ | ⟨.text _, _, _⟩ :: _ | ⟨.number, _, _⟩ :: _
  | ⟨.literal, _, _⟩ :: _ | ⟨.opening _, _, _⟩ :: _ | ⟨.closing _, _, _⟩ :: _ =>
      exact ⟨nofun, nofun⟩

-----------------------------------------------------------------------------------------
-- Arrows
-----------------------------------------------------------------------------------------

/-- An arrow describes a foreign key exactly if one side is the declared table and the other side
another one, with a single column on the side that references.
-/
theorem Arrow.foreignKey_eq_ok_iff (arrow : Arrow) (key : ForeignKey)
    : arrow.foreignKey = .ok key
      ↔ arrow
          = if key.referencesSelf then ⟨⟨.other key.other, [key.column]⟩, ⟨.self, []⟩⟩
            else ⟨⟨.self, [key.column]⟩, ⟨.other key.other, []⟩⟩ := by
  obtain ⟨⟨first, columns⟩, ⟨second, referenced⟩⟩ := arrow
  obtain ⟨other, column, referencesSelf⟩ := key
  unfold Arrow.foreignKey
  cases referenced with
  | cons listed others => cases referencesSelf <;> simp
  | nil =>
      cases first with
      | self =>
          cases second with
          | self => cases referencesSelf <;> simp
          | other target =>
              rcases columns with _ | ⟨name, _ | ⟨next, rest⟩⟩
              all_goals cases referencesSelf <;> simp [and_comm]
      | other path =>
          cases second with
          | self =>
              rcases columns with _ | ⟨name, _ | ⟨next, rest⟩⟩
              all_goals cases referencesSelf <;> simp [and_comm]
          | other target => cases referencesSelf <;> simp

/-- The column of a foreign key is the only one on the first side of its arrow. -/
theorem Arrow.columns_of_foreignKey {arrow : Arrow} {key : ForeignKey}
    (makes : arrow.foreignKey = .ok key)
    : arrow.first.columns = [key.column] := by
  rw [(arrow.foreignKey_eq_ok_iff key).mp makes]
  split <;> rfl

/-- An attribute describes a foreign key exactly if an arrow that does stands in parentheses. -/
theorem foreignKey_eq_ok_iff (tokens : List Token) (key : ForeignKey)
    : foreignKey tokens = .ok key
      ↔ ∃ found : Arrow, readAll (group .parenthesis arrow) tokens = .ok found
          ∧ found.foreignKey = .ok key := by
  have same (before after : Progress)
      : (whole do return (← arrow).foreignKey).run before = .ok (key, after)
        ↔ ∃ found, arrow.run before = .ok (found, after) ∧ found.foreignKey = .ok key := by
    simp only [run_whole_eq_ok_iff, run_bind_eq_ok_iff, run_pure_eq_ok_iff]
    constructor
    · rintro ⟨found, middle, ran, described, rfl⟩
      exact ⟨found, ran, described⟩
    · rintro ⟨found, ran, described⟩
      exact ⟨found, after, ran, described, rfl⟩
  unfold foreignKey foreignArgument
  simp only [readAll_eq_ok_iff, run_group_congr same]
  constructor
  · rintro ⟨after, ⟨found, ran, described⟩, all⟩
    exact ⟨found, ⟨after, ran, all⟩, described⟩
  · rintro ⟨found, ⟨after, ran, all⟩, described⟩
    exact ⟨after, ⟨found, ran, described⟩, all⟩

end NestedSelect.Declaration
