import NestedSelect.Declaration.Lexer
import NestedSelect.Declaration.Reader
/-!
Balanced tokens. The tokens of a text close each delimiter that they open, and so every group that
is read from them has its end. Whatever keeps to a group is balanced itself.
-/

namespace NestedSelect.Declaration

-----------------------------------------------------------------------------------------
-- Open delimiters
-----------------------------------------------------------------------------------------

/-- The delimiters that are open behind some tokens, if all that are closed match. -/
def openBehind (isOpen : List Delimiter) (tokens : List Token) : Option (List Delimiter) :=
  tokens.foldlM (fun isOpen token => nextOpen isOpen token.kind) isOpen

/-- The tokens close all delimiters that are open in front of them, and all that they open. -/
def Closes (isOpen : List Delimiter) (tokens : List Token) : Prop :=
  openBehind isOpen tokens = some []

/-- The tokens close all delimiters that they open, and no others. -/
abbrev Balanced (tokens : List Token) : Prop := Closes [] tokens

variable {isOpen outer : List Delimiter} {delimiter : Delimiter} {token : Token}
  {tokens front back : List Token}

theorem openBehind_cons (isOpen : List Delimiter) (token : Token) (tokens : List Token)
    : openBehind isOpen (token :: tokens)
        = (nextOpen isOpen token.kind).bind (openBehind · tokens) := by
  rw [openBehind, List.foldlM_cons]
  rfl

theorem openBehind_append (isOpen : List Delimiter) (front back : List Token)
    : openBehind isOpen (front ++ back) = (openBehind isOpen front).bind (openBehind · back) := by
  rw [openBehind, List.foldlM_append]
  rfl

theorem closes_append_iff
    : Closes isOpen (front ++ back)
      ↔ ∃ stillOpen, openBehind isOpen front = some stillOpen ∧ Closes stillOpen back := by
  rw [Closes, openBehind_append, Option.bind_eq_some_iff]
  rfl

theorem closes_cons_iff
    : Closes isOpen (token :: tokens)
      ↔ ∃ stillOpen, nextOpen isOpen token.kind = some stillOpen ∧ Closes stillOpen tokens := by
  rw [Closes, openBehind_cons, Option.bind_eq_some_iff]
  rfl

theorem nextOpen_closing_iff {stillOpen : List Delimiter}
    : nextOpen isOpen (.closing delimiter) = some stillOpen ↔ isOpen = delimiter :: stillOpen := by
  unfold nextOpen
  cases isOpen with
  | nil => simp
  | cons first rest =>
      by_cases same : first = delimiter
      · simp [same]
      · simp [same]

-----------------------------------------------------------------------------------------
-- Groups
-----------------------------------------------------------------------------------------

namespace Closes

/-- The contents of a group close what has been opened inside of it, whatever is open around it. By
induction over the tokens, with the delimiters that are open inside of the group in front of those
around it.
-/
theorem openBehind_splitGroup (inner other : List Delimiter)
    (closes : Closes (inner ++ outer) tokens)
    : openBehind (inner ++ other) (splitGroup inner.length tokens).1 = some other := by
  induction tokens generalizing inner with
  | nil =>
      obtain ⟨rfl, rfl⟩ := List.append_eq_nil_iff.mp (Option.some.inj closes)
      rfl
  | cons token rest ih =>
      obtain ⟨stillOpen, next, behind⟩ := closes_cons_iff.mp closes
      obtain ⟨kind, spelling, position⟩ := token
      cases kind with
      | closing delimiter =>
          cases inner with
          | nil => rfl
          | cons first inner =>
              obtain ⟨rfl, rfl⟩ := List.cons.inj (nextOpen_closing_iff.mp next)
              have closed
                  : nextOpen (first :: inner ++ other) (.closing first) = some (inner ++ other) :=
                nextOpen_closing_iff.mpr rfl
              refine (openBehind_cons _ _ _).trans ?_
              rw [closed, Option.bind_some]
              exact ih inner behind
      | opening delimiter =>
          obtain rfl := Option.some.inj next
          exact ih (delimiter :: inner) behind
      | _ =>
          obtain rfl := Option.some.inj next
          exact ih inner behind

theorem openBehind_contents (closes : Closes isOpen tokens)
    : openBehind isOpen (splitGroup 0 tokens).1 = some isOpen :=
  openBehind_splitGroup [] isOpen closes

/-- The contents of a group are balanced by themselves. -/
theorem balanced_contents (closes : Closes isOpen tokens) : Balanced (splitGroup 0 tokens).1 :=
  openBehind_splitGroup [] [] closes

/-- What is left from the end of a group on closes what is open around the group. -/
theorem groupEnd (closes : Closes isOpen tokens) : Closes isOpen (groupEnd tokens) := by
  have whole := closes
  rw [← splitGroup_append 0 tokens, closes_append_iff] at whole
  obtain ⟨stillOpen, inside, behind⟩ := whole
  rw [closes.openBehind_contents] at inside
  obtain rfl := Option.some.inj inside
  exact behind

/-- A group that has been opened ends with its own delimiter. -/
theorem groupEnd_eq_cons (closes : Closes (delimiter :: outer) tokens)
    : ∃ token rest,
        Declaration.groupEnd tokens = token :: rest
        ∧ token.kind = .closing delimiter
        ∧ Closes outer rest := by
  have behind := closes.groupEnd
  have ends := atEnd_groupEnd tokens
  cases rest : Declaration.groupEnd tokens with
  | nil =>
      rw [rest] at behind
      cases behind
  | cons token others =>
      rw [rest] at behind ends
      obtain ⟨stillOpen, next, closed⟩ := closes_cons_iff.mp behind
      obtain ⟨kind, spelling, position⟩ := token
      cases kind with
      | closing closing =>
          obtain ⟨rfl, rfl⟩ := List.cons.inj (nextOpen_closing_iff.mp next)
          exact ⟨_, others, rfl, rfl, closed⟩
      | _ => cases ends

/-- Tokens in front of the end of a group leave open what is open around them. -/
theorem append_of_groupEnd (closes : Closes isOpen (front ++ back))
    (group : Declaration.groupEnd back = Declaration.groupEnd (front ++ back))
    : openBehind isOpen front = some isOpen ∧ Closes isOpen back := by
  obtain ⟨stillOpen, opened, behind⟩ := closes_append_iff.mp closes
  have contents : (splitGroup 0 (front ++ back)).1 = front ++ (splitGroup 0 back).1 := by
    have same
        : (splitGroup 0 (front ++ back)).1 ++ Declaration.groupEnd back
            = front ++ (splitGroup 0 back).1 ++ Declaration.groupEnd back := calc
      (splitGroup 0 (front ++ back)).1 ++ Declaration.groupEnd back
        = (splitGroup 0 (front ++ back)).1 ++ Declaration.groupEnd (front ++ back) :=
          congrArg _ group
      _ = front ++ back := splitGroup_append 0 _
      _ = front ++ ((splitGroup 0 back).1 ++ Declaration.groupEnd back) :=
          congrArg (front ++ ·) (splitGroup_append 0 back).symm
      _ = front ++ (splitGroup 0 back).1 ++ Declaration.groupEnd back :=
          (List.append_assoc _ _ _).symm
    exact List.append_cancel_right same
  have same := closes.openBehind_contents
  rw [contents, openBehind_append, opened, Option.bind_some, behind.openBehind_contents] at same
  obtain rfl := Option.some.inj same
  exact ⟨opened, behind⟩

/-- Inside of a group its delimiter is open, too. -/
theorem opened {before : Progress} (closes : Closes isOpen before.rest)
    (opens : before.rest.head?.any (·.isOpening delimiter) = true)
    : Closes (delimiter :: isOpen) (Reader.Progress.behind before 1).rest := by
  obtain ⟨tokens, written, leftover⟩ := before
  cases tokens with
  | nil => cases opens
  | cons opening inner =>
      have kind : opening.kind = .opening delimiter := of_decide_eq_true opens
      obtain ⟨stillOpen, next, behind⟩ := closes_cons_iff.mp closes
      rw [kind] at next
      obtain rfl := Option.some.inj next
      exact behind

/-- Reading leaves a rest that closes what was open in front. -/
theorem of_leads {before after : Progress} (closes : Closes isOpen before.rest)
    (leads : before.Leads after) : Closes isOpen after.rest := by
  obtain ⟨phrase, whole⟩ := leads.suffix
  rw [← whole] at closes
  exact (closes.append_of_groupEnd (by rw [whole, leads.group])).2

end Closes

-----------------------------------------------------------------------------------------
-- Texts
-----------------------------------------------------------------------------------------

theorem openBehind_documentationTokens (isOpen : List Delimiter) (inner : Bool) (comment : String)
    (position : Position)
    : openBehind isOpen (documentationTokens inner comment position) = some isOpen := by
  cases inner <;> rfl

/-- The tokens of a text close what is open where it starts. By induction over the text. -/
theorem tokensFrom_closes {position : Position} {text : List Char}
    (read : tokensFrom isOpen position text = some tokens)
    : Closes isOpen tokens := by
  fun_induction tokensFrom isOpen position text generalizing tokens
  case case1 closed =>
    obtain rfl := Option.some.inj read
    obtain rfl := List.isEmpty_iff.mp closed
    rfl
  case case4 ih => exact ih read
  case case5 ih =>
    obtain ⟨later, found, rfl⟩ := Option.map_eq_some_iff.mp read
    exact closes_append_iff.mpr ⟨_, openBehind_documentationTokens .., ih found⟩
  case case7 opened _ ih =>
    obtain ⟨later, found, rfl⟩ := Option.map_eq_some_iff.mp read
    exact closes_cons_iff.mpr ⟨_, opened, ih found⟩
  all_goals cases read

theorem balanced_of_tokens {text : String} (read : Declaration.tokens text = some tokens)
    : Balanced tokens := by
  unfold Declaration.tokens at read
  split at read <;> exact tokensFrom_closes read

end NestedSelect.Declaration
