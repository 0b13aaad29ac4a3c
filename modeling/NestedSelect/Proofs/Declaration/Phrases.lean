import NestedSelect.Proofs.Declaration.BalancedTokens
import NestedSelect.Proofs.Declaration.ReaderRuns
/-!
Phrases that readers take. A reader takes a phrase if it reads just that from in front of what
follows, and leaves nothing over in the groups of the phrase. What readers that are made of others
take can be told from what these take, one phrase behind another.
-/

namespace NestedSelect.Declaration

open Reader

-----------------------------------------------------------------------------------------
-- Taking phrases
-----------------------------------------------------------------------------------------

/-- The reader takes a phrase from in front of a rest, whatever has been written before, and nothing
is left over in the groups of the phrase.
-/
def Takes {α : Type} (reader : Reader α) (phrase rest : List Token) (value : α) : Prop :=
  ∀ written, ∃ after,
    reader.run ⟨phrase ++ rest, written, none⟩ = .ok (value, after)
    ∧ after.rest = rest ∧ after.leftover = none

namespace Takes

variable {α β : Type} {phrase rest : List Token}

theorem pure (value : α) (rest : List Token) : Takes (Pure.pure value) [] rest value :=
  fun _ => ⟨_, rfl, rfl, rfl⟩

theorem look (view : List Token → α) (rest : List Token)
    : Takes (Reader.look view) [] rest (view rest) :=
  fun _ => ⟨_, rfl, rfl, rfl⟩

/-- One phrase behind another one is taken by one reader behind another one. -/
theorem bind {first : Reader α} {next : α → Reader β} {front back : List Token} {value : α}
    {result : β} (takesFirst : Takes first front (back ++ rest) value)
    (takesNext : Takes (next value) back rest result)
    : Takes (first >>= next) (front ++ back) rest result := by
  intro written
  obtain ⟨⟨middle, wrote, leftover⟩, ran, left, kept⟩ := takesFirst written
  obtain rfl : middle = back ++ rest := left
  obtain rfl : leftover = none := kept
  obtain ⟨after, ranNext, leftNext, keptNext⟩ := takesNext wrote
  refine ⟨after, ?_, leftNext, keptNext⟩
  rw [List.append_assoc]
  exact (run_bind_eq_ok_iff _ _ _ _ _).mpr ⟨value, _, ran, ranNext⟩

/-- What is made of a value takes no further tokens. -/
theorem map {reader : Reader α} {value : α} (takes : Takes reader phrase rest value)
    (make : α → β)
    : Takes (reader >>= fun value => Pure.pure (make value)) phrase rest (make value) := by
  have before : Takes reader phrase ([] ++ rest) value := takes
  have made : Takes (Pure.pure (make value)) [] rest (make value) := .pure _ rest
  rw [← List.append_nil phrase]
  exact before.bind made

theorem wordIf {word : Token} {spelling : String} (fits : word.isWord spelling = true)
    (rest : List Token) : Takes (Declaration.wordIf spelling) [word] rest true := by
  intro written
  have next : nextWord spelling (word :: rest) = true := fits
  have ran := run_wordIf spelling ⟨word :: rest, written, none⟩
  simp only [next, if_true] at ran
  exact ⟨_, ran, rfl, rfl⟩

theorem wordIf_of_other {spelling : String} (other : nextWord spelling rest = false)
    : Takes (Declaration.wordIf spelling) [] rest false := by
  intro written
  have ran := run_wordIf spelling ⟨rest, written, none⟩
  simp only [other, Bool.false_eq_true, if_false] at ran
  exact ⟨_, ran, rfl, rfl⟩

theorem marks {spelling : String} {marks : List Token} (count : marks.length = spelling.length)
    (next : nextMarks spelling (marks ++ rest) = true)
    : Takes (Declaration.marks spelling) marks rest () := by
  intro written
  refine ⟨_, (run_marks_eq_ok_iff _ _ _ _).mpr ⟨next, rfl⟩, ?_, rfl⟩
  change (marks ++ rest).drop spelling.length = rest
  rw [← count, List.drop_left]

/-- Steps go no further where there is no next state. -/
theorem iterateFor_stop {σ : Type} {step : σ → Reader (Option σ)} {state : σ}
    (stops : Takes (step state) phrase rest none) (times : Nat)
    : Takes (iterateFor step (times + 1) state) phrase rest state := by
  have before : Takes (step state) phrase ([] ++ rest) none := stops
  have done : Takes (Pure.pure state) [] rest state := .pure state rest
  rw [← List.append_nil phrase]
  exact before.bind done

theorem iterateFor_go {σ : Type} {step : σ → Reader (Option σ)} {state next result : σ}
    {front back : List Token} {times : Nat}
    (goes : Takes (step state) front (back ++ rest) (some next))
    (later : Takes (iterateFor step times next) back rest result)
    : Takes (iterateFor step (times + 1) state) (front ++ back) rest result :=
  goes.bind later

/-- A group is taken with its delimiters if its contents are taken in front of the closing one. -/
theorem group {contents : Reader α} {delimiter : Delimiter} {opening closing : Token} {value : α}
    (opens : opening.isOpening delimiter = true) (closes : closing.kind = .closing delimiter)
    (takes : Takes contents phrase (closing :: rest) value)
    : Takes (Declaration.group delimiter contents) (opening :: phrase ++ [closing]) rest value := by
  intro written
  obtain ⟨middle, ran, left, kept⟩ := takes (opening :: written)
  have ends : atEnd middle.rest = true := by
    rw [left, atEnd, Token.isClosing, closes]
  refine ⟨Progress.leave middle, ?_, ?_, ?_⟩
  · refine (run_group_eq_ok_iff _ _ _ _ _).mpr ⟨opens, middle, ?_, rfl⟩
    change contents.run ⟨phrase ++ [closing] ++ rest, opening :: written, none⟩ = _
    rw [List.append_assoc]
    exact ran
  · rw [Progress.leave, Progress.closed, groupEnd_of_atEnd ends, left]
    rfl
  · rw [Progress.leave, kept, ends]
    rfl

/-- A phrase with nothing behind it is read as a whole. -/
theorem readAll {reader : Reader α} {value : α} (takes : Takes reader phrase [] value)
    : Reader.readAll reader phrase = .ok value := by
  obtain ⟨after, ran, left, kept⟩ := takes []
  rw [List.append_nil] at ran
  exact (readAll_eq_ok_iff _ _ _).mpr ⟨after, ran, kept, left⟩

end Takes

/-- What a group is read as is read from its contents, in front of the delimiter that closes it. -/
theorem exists_of_run_group {α : Type} {contents : Reader α} {delimiter : Delimiter}
    {isOpen : List Delimiter} {before after : Progress} {value : α}
    (ran : (group delimiter contents).run before = .ok (value, after))
    (complete : after.leftover = none) (closes : Closes isOpen before.rest)
    : ∃ opening closing inside middle,
        before.rest = opening :: inside
        ∧ opening.isOpening delimiter = true
        ∧ contents.run ⟨inside, opening :: before.written, before.leftover⟩ = .ok (value, middle)
        ∧ Closes (delimiter :: isOpen) inside
        ∧ middle.leftover = none
        ∧ middle.rest = closing :: after.rest
        ∧ closing.kind = .closing delimiter := by
  obtain ⟨opens, middle, inside, rfl⟩ := (run_group_eq_ok_iff _ _ _ _ _).mp ran
  have opened := closes.opened opens
  obtain ⟨tokens, written, leftover⟩ := before
  cases tokens with
  | nil => cases opens
  | cons opening inner =>
      have leads := leads_of_run inside
      obtain ⟨closing, rest, ends, closed, -⟩ := (opened.of_leads leads).groupEnd_eq_cons
      obtain ⟨kept, found⟩ := Option.or_eq_none_iff.mp complete
      have atItsEnd : atEnd middle.rest = true := by
        cases unread : atEnd middle.rest with
        | true => rfl
        | false =>
            rw [unread] at found
            cases found
      rw [groupEnd_of_atEnd atItsEnd] at ends
      have left : (Progress.leave middle).rest = rest := by
        rw [Progress.leave, Progress.closed, groupEnd_of_atEnd atItsEnd, ends]
        rfl
      refine ⟨opening, closing, inner, middle, rfl, opens, inside, opened, kept, ?_, closed⟩
      rw [ends, left]

/-- Nothing is left over before where nothing is left over in the end. -/
theorem Progress.Leads.complete {before after : Progress} (leads : before.Leads after)
    (complete : after.leftover = none) : before.leftover = none := by
  cases found : before.leftover with
  | none => rfl
  | some position =>
      have kept := leads.kept found
      rw [complete] at kept
      cases kept

-----------------------------------------------------------------------------------------
-- Paths
-----------------------------------------------------------------------------------------

/-- What is read as a path is taken as one, whatever has been written before it. -/
theorem takes_path_of_run {before after : Progress} {path : Path}
    (ran : (withGrammar Grammar.path).run before = .ok (path, after))
    (fresh : before.leftover = none) (complete : after.leftover = none)
    : ∃ phrase,
        before.rest = phrase ++ after.rest
        ∧ Takes (withGrammar Grammar.path) phrase after.rest path := by
  obtain ⟨phrase, whole⟩ := (leads_of_run ran).suffix
  refine ⟨phrase, whole.symm, fun written => ?_⟩
  rw [whole]
  obtain ⟨tokens, wrote, leftover⟩ := before
  obtain rfl : leftover = none := fresh
  unfold withGrammar remaining Grammar.path at ran ⊢
  simp only [run_bind_eq_ok_iff, run_look_eq_ok_iff, run_recorded_eq_ok_iff, run_write_eq_ok_iff,
    run_pure_eq_ok_iff] at ran ⊢
  obtain ⟨_, _, ⟨rfl, rfl⟩, _, _, ⟨rfl, rfl⟩, found, _, ⟨inner, read, recorded, rfl⟩, _, _, rfl,
    made, rfl⟩ := ran
  exact ⟨_, ⟨_, _, ⟨rfl, rfl⟩, _, _, ⟨rfl, rfl⟩, found, _, ⟨inner, read, recorded, rfl⟩, (), _, rfl,
    made, rfl⟩, rfl, complete⟩

-----------------------------------------------------------------------------------------
-- Lists of names
-----------------------------------------------------------------------------------------

/-- Names with commas between them and perhaps behind the last one. -/
inductive NameList : List Token → List String → Prop
  | none : NameList [] []
  | last {name : Token} (isName : name.isIdentifier = true) : NameList [name] [name.spelling]
  | more {name comma : Token} {phrase : List Token} {names : List String}
    (isName : name.isIdentifier = true) (parted : comma.isMark ',' = true)
    (others : NameList phrase names)
    : NameList (name :: comma :: phrase) (name.spelling :: names)

/-- Read one more name of a list, with the comma behind it, unless the list ends. -/
def nameStep (names : List String) : Reader (Option (List String)) := do
  if ← sees atEnd then return none
  let name ← identifier
  unless ← sees atEnd do marks ","
  return some (name :: names)

theorem listed_identifier_eq
    : listed identifier = do return (← iterate nameStep []).reverse :=
  rfl

theorem nextMarks_comma_iff (tokens : List Token)
    : nextMarks "," tokens = true
      ↔ ∃ comma rest, tokens = comma :: rest ∧ comma.isMark ',' = true := by
  change tokens.head?.any (·.isMark ',') = true ↔ _
  cases tokens <;> simp

/-- What a step over a list of names comes to. -/
inductive NameStep (names : List String) : Progress → Option (List String) → Progress → Prop
  | ended {before : Progress} (ends : atEnd before.rest = true)
    : NameStep names before none before
  | last {name : Token} {rest written : List Token} {leftover : Option Position}
    (isName : name.isIdentifier = true) (ends : atEnd rest = true)
    : NameStep names ⟨name :: rest, written, leftover⟩ (some (name.spelling :: names))
        ⟨rest, name :: written, leftover⟩
  | more {name comma : Token} {rest written : List Token} {leftover : Option Position}
    (isName : name.isIdentifier = true) (parted : comma.isMark ',' = true)
    : NameStep names ⟨name :: comma :: rest, written, leftover⟩ (some (name.spelling :: names))
        ⟨rest, comma :: name :: written, leftover⟩

theorem atEnd_cons_of_plain {token : Token} (plain : token.isDelimiter = false) (rest : List Token)
    : atEnd (token :: rest) = false := by
  obtain ⟨kind, spelling, position⟩ := token
  cases kind <;> first | rfl | cases plain

theorem run_nameStep_eq_ok_iff (names : List String) (before after : Progress)
    (result : Option (List String))
    : (nameStep names).run before = .ok (result, after) ↔ NameStep names before result after := by
  unfold nameStep sees
  simp only [run_bind_eq_ok_iff, run_look_eq_ok_iff]
  constructor
  · rintro ⟨_, _, ⟨rfl, rfl⟩, ran⟩
    cases ends : atEnd before.rest with
    | true =>
        rw [ends, if_pos rfl] at ran
        obtain ⟨rfl, rfl⟩ := (run_pure_eq_ok_iff _ _ _ _).mp ran
        exact .ended ends
    | false =>
        rw [ends] at ran
        simp only [Bool.false_eq_true, if_false, run_bind_eq_ok_iff, run_look_eq_ok_iff,
          run_identifier_eq_ok_iff] at ran
        obtain ⟨_, _, ⟨name, rest, same, isName, rfl, rfl⟩, _, _, ⟨rfl, rfl⟩, ran⟩ := ran
        obtain ⟨tokens, written, leftover⟩ := before
        obtain rfl : tokens = name :: rest := same
        cases final : atEnd rest with
        | true =>
            simp only [final] at ran
            obtain ⟨rfl, rfl⟩ := (run_pure_eq_ok_iff _ _ _ _).mp ran
            exact .last isName final
        | false =>
            simp only [final, Bool.false_eq_true, if_false, run_bind_eq_ok_iff,
              run_marks_eq_ok_iff, nextMarks_comma_iff] at ran
            obtain ⟨_, _, ⟨⟨comma, others, rfl, parted⟩, rfl⟩, ran⟩ := ran
            obtain ⟨rfl, rfl⟩ := (run_pure_eq_ok_iff _ _ _ _).mp ran
            exact .more isName parted
  · intro step
    refine ⟨_, before, ⟨rfl, rfl⟩, ?_⟩
    cases step with
    | ended ends => rw [ends, if_pos rfl]; rfl
    | @last name rest written leftover isName ends =>
        have plain := atEnd_cons_of_plain (Token.isDelimiter_of_isIdentifier isName) rest
        simp only [plain, Bool.false_eq_true, if_false, run_bind_eq_ok_iff, run_look_eq_ok_iff,
          run_identifier_eq_ok_iff]
        refine ⟨_, _, ⟨name, rest, rfl, isName, rfl, rfl⟩, _, _, ⟨rfl, rfl⟩, ?_⟩
        rw [ends]
        rfl
    | @more name comma rest written leftover isName parted =>
        have plain := atEnd_cons_of_plain (Token.isDelimiter_of_isIdentifier isName) (comma :: rest)
        have comes := atEnd_cons_of_plain (Token.isDelimiter_of_isMark parted) rest
        simp only [plain, Bool.false_eq_true, if_false, run_bind_eq_ok_iff, run_look_eq_ok_iff,
          run_identifier_eq_ok_iff]
        refine ⟨_, _, ⟨name, comma :: rest, rfl, isName, rfl, rfl⟩, _, _, ⟨rfl, rfl⟩, ?_⟩
        simp only [comes, Bool.false_eq_true, if_false, run_bind_eq_ok_iff, run_marks_eq_ok_iff,
          nextMarks_comma_iff]
        exact ⟨(), _, ⟨⟨comma, rest, rfl, parted⟩, rfl⟩, rfl⟩

theorem NameList.eq_nil_of_atEnd {phrase rest : List Token} {names : List String}
    (list : NameList phrase names) (ends : atEnd (phrase ++ rest) = true)
    : phrase = [] ∧ names = [] := by
  cases list with
  | none => exact ⟨rfl, rfl⟩
  | last isName | more isName =>
      have plain := Token.isDelimiter_of_isIdentifier isName
      rw [List.cons_append, atEnd_cons_of_plain plain] at ends
      cases ends

/-- Whatever steps over a list of names have read is such a list. By induction over the steps. -/
theorem nameList_of_iterateFor {times : Nat} {names result : List String} {before after : Progress}
    (ran : (iterateFor nameStep times names).run before = .ok (result, after))
    : ∃ phrase read,
        NameList phrase read ∧ before.rest = phrase ++ after.rest
        ∧ result = read.reverse ++ names ∧ after.leftover = before.leftover := by
  induction times generalizing names before with
  | zero =>
      obtain ⟨rfl, rfl⟩ := (run_pure_eq_ok_iff _ _ _ _).mp ran
      exact ⟨[], [], .none, rfl, rfl, rfl⟩
  | succ times ih =>
      obtain ⟨state, middle, stepped, behind⟩ := (run_bind_eq_ok_iff _ _ _ _ _).mp ran
      cases (run_nameStep_eq_ok_iff _ _ _ _).mp stepped with
      | ended ends =>
          obtain ⟨rfl, rfl⟩ := (run_pure_eq_ok_iff _ _ _ _).mp behind
          exact ⟨[], [], .none, rfl, rfl, rfl⟩
      | @last name rest written leftover isName ends =>
          obtain ⟨phrase, read, list, same, rfl, kept⟩ := ih behind
          have same : rest = phrase ++ after.rest := same
          obtain ⟨rfl, rfl⟩ := list.eq_nil_of_atEnd (same ▸ ends)
          exact ⟨[name], [name.spelling], .last isName, by rw [same]; rfl, rfl, kept⟩
      | @more name comma rest written leftover isName parted =>
          obtain ⟨phrase, read, list, same, rfl, kept⟩ := ih behind
          have same : rest = phrase ++ after.rest := same
          refine ⟨name :: comma :: phrase, name.spelling :: read, .more isName parted list, ?_, ?_,
            kept⟩
          · rw [same]
            rfl
          · simp

/-- A step over a list of names takes what it reads. -/
theorem NameStep.takes {names : List String} {phrase rest : List Token}
    {result : Option (List String)}
    (step
      : ∀ written, ∃ wrote,
          NameStep names ⟨phrase ++ rest, written, none⟩ result ⟨rest, wrote, none⟩)
    : Takes (nameStep names) phrase rest result := by
  intro written
  obtain ⟨wrote, stepped⟩ := step written
  exact ⟨_, (run_nameStep_eq_ok_iff _ _ _ _).mpr stepped, rfl, rfl⟩

/-- Steps over a list of names stop where it ends. -/
theorem takes_iterateFor_nil {rest : List Token} (ends : atEnd rest = true) (times : Nat)
    (names : List String)
    : Takes (iterateFor nameStep times names) [] rest names := by
  cases times with
  | zero => exact .pure names rest
  | succ times =>
      have stop : Takes (nameStep names) [] rest none :=
        NameStep.takes fun written => ⟨written, .ended ends⟩
      exact stop.iterateFor_stop times

/-- Steps over a list of names read all of it where it ends, if they are enough. By induction over
the list.
-/
theorem takes_iterateFor {phrase rest : List Token} {read : List String}
    (list : NameList phrase read) (ends : atEnd rest = true) {times : Nat}
    (enough : phrase.length ≤ times) (names : List String)
    : Takes (iterateFor nameStep times names) phrase rest (read.reverse ++ names) := by
  induction list generalizing names times with
  | none => exact takes_iterateFor_nil ends times names
  | @last name isName =>
      obtain ⟨more, rfl⟩ := Nat.exists_eq_add_of_le' enough
      have step : Takes (nameStep names) [name] rest (some (name.spelling :: names)) :=
        NameStep.takes fun written => ⟨name :: written, .last isName ends⟩
      exact Takes.iterateFor_go step (takes_iterateFor_nil ends more _)
  | @more name comma phrase read isName parted others ih =>
      obtain ⟨more, rfl⟩ := Nat.exists_eq_add_of_le' enough
      have step
          : Takes (nameStep names) [name, comma] (phrase ++ rest)
              (some (name.spelling :: names)) :=
        NameStep.takes fun written => ⟨comma :: name :: written, .more isName parted⟩
      have enough : phrase.length ≤ more + phrase.length + 1 := by omega
      have later := ih enough (name.spelling :: names)
      rw [List.reverse_cons, List.append_assoc, List.singleton_append]
      exact Takes.iterateFor_go step later

end NestedSelect.Declaration
