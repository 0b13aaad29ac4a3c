import NestedSelect.Text.Quoted
/-!
Lexing of SQL text, as far as quotes go. A token is a quoted identifier, a string literal, or a
single item of anything else. Inside of quotes a doubled mark stands for the mark, and no other
item is special. The items are characters, or whatever else a text is cut into.
-/

namespace NestedSelect.Lexing

/-- What a pair of quotes makes of the text between them. -/
inductive Kind where
  | identifier
  | literal
deriving DecidableEq, Repr

/-- The quote character at either end. -/
def Kind.mark : Kind → Char
  | .identifier => '"'
  | .literal => '\''

/-- The quotes that a character belongs to, if it is a quote character. -/
def quotesOf (c : Char) : Option Kind :=
  if c = '"' then some .identifier
  else if c = '\'' then some .literal
  else none

/-- A token in terms of items, with the content of quotes decoded. -/
inductive Token (α : Type) where
  | quoted (kind : Kind) (content : List α)
  | single (item : α)
deriving DecidableEq, Repr

/-- Where a lexer stands between two items. -/
inductive State (α : Type) where
  | outside
  | inside (kind : Kind) (content : List α)
  /-- Behind a mark that ends the token, unless another one follows and both stand for one. -/
  | closing (kind : Kind) (content : List α)
deriving DecidableEq, Repr

variable {α β : Type} (quotes : α → Option Kind)

/-- An item outside of quotes. -/
def enter (item : α) : List (Token α) × State α :=
  match quotes item with
  | some kind => ([], .inside kind [])
  | none => ([.single item], .outside)

/-- The tokens that an item completes, and the state behind it. -/
def step : State α → α → List (Token α) × State α
  | .outside, item => enter quotes item
  | .inside kind content, item =>
    if quotes item = some kind then ([], .closing kind content)
    else ([], .inside kind (content ++ [item]))
  | .closing kind content, item =>
    if quotes item = some kind then ([], .inside kind (content ++ [item]))
    else (.quoted kind content :: (enter quotes item).1, (enter quotes item).2)

/-- The tokens that some items complete, and the state behind them. -/
def run (state : State α) : List α → List (Token α) × State α
  | [] => ([], state)
  | item :: rest =>
    let now := step quotes state item
    let later := run now.2 rest
    (now.1 ++ later.1, later.2)

/-- The tokens that are completed by the end of the text. An open quote never is. -/
def finish : State α → Option (List (Token α))
  | .outside => some []
  | .inside _ _ => none
  | .closing kind content => some [.quoted kind content]

/-- The tokens of a text in items, unless it ends within quotes. -/
def lexItems (items : List α) : Option (List (Token α)) :=
  let last := run quotes .outside items
  (finish last.2).map (last.1 ++ ·)

/-- The tokens of a text. -/
def lex (text : List Char) : Option (List (Token Char)) :=
  lexItems quotesOf text

/-- The text ends outside of quotes. -/
def Complete (text : List Char) : Prop :=
  (lex text).isSome

-----------------------------------------------------------------------------------------
-- Seams
-----------------------------------------------------------------------------------------

/-- A lexer goes over a seam in the state that the front leaves behind. -/
theorem run_append (state : State α) (front back : List α)
    : run quotes state (front ++ back)
        = ((run quotes state front).1 ++ (run quotes (run quotes state front).2 back).1,
            (run quotes (run quotes state front).2 back).2) := by
  induction front generalizing state with
  | nil => rfl
  | cons item rest ih => simp [run, ih]

theorem run_unquoted {items : List α} (unquoted : ∀ item ∈ items, quotes item = none)
    : run quotes .outside items = (items.map .single, .outside) := by
  induction items with
  | nil => rfl
  | cons item rest ih =>
      have rest := ih fun item member => unquoted item (by simp [member])
      simp [run, step, enter, unquoted item, rest]

/-- A closing mark ends its token where no quote follows at once. -/
theorem run_closing (kind : Kind) (content items : List α) (item : α)
    (unquoted : quotes item = none)
    : run quotes (.closing kind content) (item :: items)
        = (.quoted kind content :: (run quotes .outside (item :: items)).1,
            (run quotes .outside (item :: items)).2) := by
  simp [run, step, enter, unquoted]

/-- The tokens of a text are those completed on the way and the one completed by its end. -/
theorem lex_eq_some_iff (text : List Char) (tokens : List (Token Char))
    : lex text = some tokens
      ↔ ∃ last,
          finish (run quotesOf .outside text).2 = some last
          ∧ (run quotesOf .outside text).1 ++ last = tokens := by
  simp [lex, lexItems]

/-- Texts that are complete may follow one another, unless quotes meet at the seam: then the marks
on both sides might be taken for a doubled one. It is enough that either side has no quote there.
-/
theorem lex_append {front back : List Char} {frontTokens backTokens : List (Token Char)}
    (first : lex front = some frontTokens) (second : lex back = some backTokens)
    (apart : (∀ c ∈ front, quotesOf c = none) ∨ ∀ c ∈ back.head?, quotesOf c = none)
    : lex (front ++ back) = some (frontTokens ++ backTokens) := by
  obtain ⟨frontLast, frontEnd, rfl⟩ := (lex_eq_some_iff _ _).mp first
  obtain ⟨backLast, backEnd, rfl⟩ := (lex_eq_some_iff _ _).mp second
  rw [lex_eq_some_iff, run_append]
  cases state : (run quotesOf .outside front).2 with
  | outside =>
      rw [state] at frontEnd
      obtain rfl := Option.some.inj frontEnd
      exact ⟨backLast, backEnd, by simp⟩
  | inside kind content =>
      rw [state] at frontEnd
      contradiction
  | closing kind content =>
      rw [state] at frontEnd
      obtain rfl := Option.some.inj frontEnd
      -- The front ends with a mark that might still be doubled, so it does have quotes.
      have head : ∀ c ∈ back.head?, quotesOf c = none := by
        rcases apart with unquoted | head
        · rw [run_unquoted quotesOf unquoted] at state
          contradiction
        · exact head
      cases back with
      | nil =>
          obtain rfl := Option.some.inj backEnd
          exact ⟨[.quoted kind content], rfl, by simp [run]⟩
      | cons c rest =>
          rw [run_closing quotesOf kind content rest c (head c rfl)]
          exact ⟨backLast, backEnd, by simp⟩

-----------------------------------------------------------------------------------------
-- Quoted text
-----------------------------------------------------------------------------------------

theorem quotesOf_eq_some_iff (c : Char) (kind : Kind)
    : quotesOf c = some kind ↔ c = kind.mark := by
  unfold quotesOf
  cases kind with
  | identifier => by_cases identifier : c = '"' <;> simp [identifier, Kind.mark]
  | literal =>
      by_cases identifier : c = '"'
      · simp [identifier, Kind.mark]
      · by_cases literal : c = '\'' <;> simp [identifier, literal, Kind.mark]

theorem lex_unquoted {text : List Char} (unquoted : ∀ c ∈ text, quotesOf c = none)
    : lex text = some (text.map .single) := by
  rw [lex_eq_some_iff, run_unquoted quotesOf unquoted]
  exact ⟨[], rfl, List.append_nil _⟩

/-- Within quotes a doubled text is decoded, and the lexer stays within the quotes. By induction
over the text: a doubled mark leads out of the quotes and back again.
-/
theorem run_double (kind : Kind) (content text : List Char)
    : run quotesOf (.inside kind content) (Quoted.double kind.mark text)
        = ([], .inside kind (content ++ text)) := by
  have mark := (quotesOf_eq_some_iff kind.mark kind).mpr rfl
  induction text generalizing content with
  | nil => simp [run]
  | cons c rest ih =>
      rw [Quoted.double_cons]
      by_cases same : c = kind.mark
      · simp [same, run, step, mark, ih]
      · have other : quotesOf c ≠ some kind := fun h => same ((quotesOf_eq_some_iff c kind).mp h)
        simp [same, run, step, other, ih]

/-- A quoted text is one token, and its content is the text. -/
theorem lex_encode (kind : Kind) (text : List Char)
    : lex (Quoted.encode kind.mark text) = some [.quoted kind text] := by
  have mark := (quotesOf_eq_some_iff kind.mark kind).mpr rfl
  have inside
      : run quotesOf .outside (Quoted.encode kind.mark text) = ([], .closing kind text) := by
    rw [Quoted.encode, run]
    simp [step, enter, mark, run_append, run_double, run]
  rw [lex_eq_some_iff, inside]
  exact ⟨[.quoted kind text], rfl, rfl⟩

-----------------------------------------------------------------------------------------
-- Items made of characters
-----------------------------------------------------------------------------------------

/-- The tokens of the characters that a token of items is spelled with. -/
def Token.spell (letters : α → List Char) : Token α → List (Token Char)
  | .quoted kind content => [.quoted kind (content.flatMap letters)]
  | .single item => (letters item).map .single

/-- The state of a lexer of characters that stands where a lexer of items does. -/
def State.spell (letters : α → List Char) : State α → State Char
  | .outside => .outside
  | .inside kind content => .inside kind (content.flatMap letters)
  | .closing kind content => .closing kind (content.flatMap letters)

/-- Items are spelled with quote characters only where they are quote characters themselves, and
never with nothing at all.
-/
structure Spells (quotes : α → Option Kind) (letters : α → List Char) (item : α) : Prop where
  mark : ∀ kind, quotes item = some kind → letters item = [kind.mark]
  plain : quotes item = none → letters item ≠ [] ∧ ∀ c ∈ letters item, quotesOf c = none

theorem run_inside_unquoted (kind : Kind) (content : List Char) {text : List Char}
    (unquoted : ∀ c ∈ text, quotesOf c = none)
    : run quotesOf (.inside kind content) text = ([], .inside kind (content ++ text)) := by
  induction text generalizing content with
  | nil => simp [run]
  | cons c rest ih =>
      have rest := ih (content ++ [c]) fun c member => unquoted c (by simp [member])
      simp [run, step, unquoted c, rest]

variable {quotes} {letters : α → List Char}

/-- Reading the characters of one item is like reading the item. The cases are those of a step: a
quote character is one item and one character, and any other item is taken whole, in quotes or out
of them.
-/
theorem run_letters {item : α} (spells : Spells quotes letters item) (state : State α)
    : run quotesOf (state.spell letters) (letters item)
        = ((step quotes state item).1.flatMap (Token.spell letters),
            (step quotes state item).2.spell letters) := by
  cases found : quotes item with
  | some kind =>
      have mark := (quotesOf_eq_some_iff kind.mark kind).mpr rfl
      have written := spells.mark kind found
      cases state with
      | outside => simp [written, State.spell, run, step, enter, mark, found]
      | inside held content =>
          by_cases same : kind = held
          · subst same
            simp [written, State.spell, run, step, mark, found]
          · simp [written, State.spell, run, step, mark, found, same]
      | closing held content =>
          by_cases same : kind = held
          · subst same
            simp [written, State.spell, run, step, mark, found]
          · simp [written, State.spell, Token.spell, run, step, enter, mark, found, same]
  | none =>
      obtain ⟨nonempty, unquoted⟩ := spells.plain found
      cases state with
      | outside =>
          simp [State.spell, Token.spell, run_unquoted quotesOf unquoted, step, enter, found]
      | inside kind content =>
          simp [State.spell, run_inside_unquoted kind _ unquoted, step, found]
      | closing kind content =>
          obtain ⟨c, rest, written⟩ := List.exists_cons_of_ne_nil nonempty
          have head : quotesOf c = none := unquoted c (by simp [written])
          have closed := run_closing quotesOf kind (content.flatMap letters) rest c head
          rw [← written, run_unquoted quotesOf unquoted] at closed
          simp [State.spell, Token.spell, closed, step, enter, found]

/-- Reading the characters of some items is like reading the items, by induction over them. -/
theorem run_flatMap_letters {items : List α} (spells : ∀ item ∈ items, Spells quotes letters item)
    (state : State α)
    : run quotesOf (state.spell letters) (items.flatMap letters)
        = ((run quotes state items).1.flatMap (Token.spell letters),
            (run quotes state items).2.spell letters) := by
  induction items generalizing state with
  | nil => rfl
  | cons item rest ih =>
      have first := run_letters (spells item (by simp)) state
      have later := ih (fun item member => spells item (by simp [member]))
        (step quotes state item).2
      rw [List.flatMap_cons, run_append, first, later]
      simp [run]

/-- A text made of items has the tokens of the items, spelled out. -/
theorem lex_flatMap_letters {items : List α} (spells : ∀ item ∈ items, Spells quotes letters item)
    : lex (items.flatMap letters)
        = (lexItems quotes items).map (·.flatMap (Token.spell letters)) := by
  have ends (state : State α)
      : finish (state.spell letters) = (finish state).map (·.flatMap (Token.spell letters)) := by
    cases state <;> rfl
  have read := run_flatMap_letters spells .outside
  rw [State.spell] at read
  rw [lex, lexItems, lexItems, read, ends]
  cases finish (run quotes .outside items).2 <;> simp

end NestedSelect.Lexing
