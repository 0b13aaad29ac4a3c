import NestedSelect.Proofs.Text.Lexing
/-!
Words of SQL text. Outside of quotes, letters that stand together make up a word, blanks keep words
apart, and any other character is a mark of its own. What is quoted counts as a whole.
-/

namespace NestedSelect.Lexing

/-- What a text consists of when blanks are left out. -/
inductive Word where
  | keyword (letters : String)
  | mark (c : Char)
  | quoted (kind : Kind) (content : String)
deriving DecidableEq, Repr

/-- Characters that words are made of. -/
def lettered (c : Char) : Bool :=
  c.isAlphanum || c == '_'

namespace Word

/-- The word that some letters make up when no more of them follow. The word `as` may be left out in
front of any name, so it does not count.
-/
def ofLetters : List Char → List Word
  | [] => []
  | ['a', 's'] => []
  | letters => [.keyword (String.ofList letters)]

/-- The words that a token completes, and the letters that may be part of a longer word. -/
def step (pending : List Char) : Token Char → List Word × List Char
  | .quoted kind content => (ofLetters pending ++ [.quoted kind (String.ofList content)], [])
  | .single c =>
    if lettered c then ([], pending ++ [c])
    else if c.isWhitespace then (ofLetters pending, [])
    else (ofLetters pending ++ [.mark c], [])

/-- The words that some tokens complete, and the letters behind the last of them. -/
def run (pending : List Char) : List (Token Char) → List Word × List Char
  | [] => ([], pending)
  | token :: rest =>
    let now := step pending token
    let later := run now.2 rest
    (now.1 ++ later.1, later.2)

end Word

/-- The words of some tokens. -/
def wordsOf (tokens : List (Token Char)) : List Word :=
  (Word.run [] tokens).1 ++ Word.ofLetters (Word.run [] tokens).2

/-- The words of a text, unless it ends within quotes. -/
def words (text : String) : Option (List Word) :=
  (lex text.toList).map wordsOf

-----------------------------------------------------------------------------------------
-- Seams
-----------------------------------------------------------------------------------------

namespace Word

/-- Reading goes over a seam with the letters that the front leaves behind. -/
theorem run_append (pending : List Char) (front back : List (Token Char))
    : run pending (front ++ back)
        = ((run pending front).1 ++ (run (run pending front).2 back).1,
            (run (run pending front).2 back).2) := by
  induction front generalizing pending with
  | nil => rfl
  | cons token rest ih => simp [run, ih]

/-- The token is not part of a word. -/
def Splits : Token Char → Prop
  | .quoted _ _ => True
  | .single c => lettered c = false

instance : DecidablePred Splits
  | .quoted _ _ => inferInstanceAs (Decidable True)
  | .single c => inferInstanceAs (Decidable (lettered c = false))

/-- What is not part of a word ends the word in front of it. -/
theorem step_of_splits {token : Token Char} (splits : Splits token) (pending : List Char)
    : step pending token = (ofLetters pending ++ (step [] token).1, (step [] token).2) := by
  cases token with
  | quoted kind content => rfl
  | single c =>
      have letter : lettered c = false := splits
      simp only [step, letter, Bool.false_eq_true, if_false]
      split <;> simp [ofLetters]

/-- Tokens that do not start within a word are read the same behind any letters. -/
theorem run_of_splits {tokens : List (Token Char)} (opening : ∃ token ∈ tokens.head?, Splits token)
    (pending : List Char)
    : run pending tokens = (ofLetters pending ++ (run [] tokens).1, (run [] tokens).2) := by
  cases tokens with
  | nil => simp at opening
  | cons token rest =>
      obtain ⟨first, same, splits⟩ := opening
      obtain rfl : token = first := Option.some.inj same
      rw [run, run, step_of_splits splits pending]
      simp

/-- Blanks have no words, but they end the one in front of them. -/
theorem run_blanks {blanks : List Char}
    (blank : ∀ c ∈ blanks, lettered c = false ∧ c.isWhitespace)
    : run [] (blanks.map .single) = ([], []) := by
  induction blanks with
  | nil => rfl
  | cons c rest ih =>
      have rest := ih fun c member => blank c (by simp [member])
      obtain ⟨letter, space⟩ := blank c (by simp)
      simp [run, step, letter, space, ofLetters, rest]

end Word

end NestedSelect.Lexing
