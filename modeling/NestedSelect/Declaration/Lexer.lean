import NestedSelect.Declaration.Literal
import NestedSelect.Declaration.Token
import NestedSelect.Text.Escaped
/-!
From the text of a declaration to its tokens. Blanks and comments are dropped, except that a
documentation comment becomes a `doc` attribute with the text of the comment. A text in which
some delimiter has no counterpart has no tokens.
-/

namespace NestedSelect.Declaration

/-- The two directional marks are blanks, too. -/
def isBlank (c : Char) : Bool :=
  isWhiteSpace c || c = '\u200e' || c = '\u200f'

/-- A comment up to the end of its line, and what is left from there on. The two characters of a
line break that starts with a carriage return are parted, the second one is left.
-/
def readLine : List Char → List Char × List Char
  | [] => ([], [])
  | '\n' :: rest => ([], '\n' :: rest)
  | '\r' :: '\n' :: rest => ([], '\n' :: rest)
  | c :: rest =>
    let (line, rest) := readLine rest
    (c :: line, rest)

/-- A comment inside `depth` comment openings, up to the closing of the outermost one. -/
def readBlock (depth : Nat) : List Char → Option (List Char × List Char)
  | '/' :: '*' :: rest =>
    (readBlock (depth + 1) rest).map fun (body, rest) => ('/' :: '*' :: body, rest)
  | '*' :: '/' :: rest =>
    if depth ≤ 1 then some ([], rest)
    else (readBlock (depth - 1) rest).map fun (body, rest) => ('*' :: '/' :: body, rest)
  | c :: rest => (readBlock depth rest).map fun (body, rest) => (c :: body, rest)
  | [] => none

/-- Characters that can be punctuation. -/
def punctuation : List Char :=
  ['~', '!', '@', '#', '$', '%', '^', '&', '*', '-', '=', '+', '|', ';', ':', ',', '<', '.', '>',
    '/', '?', '\'']

/-- A text starts with punctuation, and not with a comment. -/
def startsWithMark : List Char → Bool
  | '/' :: c :: _ => c ≠ '/' && c ≠ '*'
  | c :: _ => punctuation.contains c
  | [] => false

/-- An identifier or a keyword at the start of a text. Five words have no raw form. -/
def readWord : List Char → Option (List Char × List Char)
  | 'r' :: '#' :: rest =>
    match readName rest with
    | some (name, rest) =>
      if ["_", "super", "self", "Self", "crate"].contains (String.ofList name) then none
      else some ('r' :: '#' :: name, rest)
    | none => none
  | text => readName text

/-- A text starts like a string, a character or bytes. If it is none of them, it is no word
either.
-/
def startsLikeLiteral : List Char → Bool
  | 'r' :: '"' :: _ | 'r' :: '#' :: '"' :: _ | 'r' :: '#' :: '#' :: _ => true
  | 'b' :: '"' :: _ | 'b' :: '\'' :: _ | 'b' :: 'r' :: '"' :: _ | 'b' :: 'r' :: '#' :: _ => true
  | 'c' :: '"' :: _ | 'c' :: 'r' :: '"' :: _ | 'c' :: 'r' :: '#' :: _ => true
  | _ => false

/-- What stands at the start of a text. -/
inductive Lexeme where
  /-- Blanks or a comment. -/
  | blank
  /-- A comment that documents what follows it or, as an `inner` one, what it stands in. -/
  | documentation (inner : Bool) (comment : List Char)
  | token (kind : TokenKind)
deriving DecidableEq, Repr

/-- A mark at the start of a text. The mark of a lifetime is joint with the name of it. -/
def readMark (text : List Char) : Option (Lexeme × List Char) :=
  if startsWithMark text then
    match text with
    | '\'' :: rest =>
      match readWord rest with
      | some (_, behind) =>
        if behind.head? = some '\'' || (behind.head? = some '#' && rest.take 2 ≠ ['r', '#']) then
          none
        else some (.token (.mark '\'' true), rest)
      | none => none
    | c :: rest => some (.token (.mark c (startsWithMark rest)), rest)
    | [] => none
  else none

/-- A documentation comment. Carriage returns in it belong to line breaks. -/
def documented (inner : Bool) (found : List Char × List Char) : Option (Lexeme × List Char) :=
  if noBareReturn found.1 then some (.documentation inner found.1, found.2) else none

/-- A comment behind its first two characters, `//`. -/
def readLineComment (text : List Char) : Option (Lexeme × List Char) :=
  match text with
  | '!' :: rest => documented true (readLine rest)
  | '/' :: '/' :: _ => some (.blank, (readLine text).2)
  | '/' :: rest => documented false (readLine rest)
  | _ => some (.blank, (readLine text).2)

/-- A comment behind its first two characters, which open a block. -/
def readBlockComment (text : List Char) : Option (Lexeme × List Char) :=
  match text with
  | '!' :: rest => (readBlock 1 rest).bind (documented true)
  | '*' :: '/' :: rest => some (.blank, rest)
  | '*' :: '*' :: _ => (readBlock 1 text).map fun (_, rest) => (.blank, rest)
  | '*' :: rest => (readBlock 1 rest).bind (documented false)
  | _ => (readBlock 1 text).map fun (_, rest) => (.blank, rest)

/-- A literal, a mark or a word at the start of a text. -/
def readLeaf (text : List Char) : Option (Lexeme × List Char) :=
  match readLiteral text with
  | some (.text value, rest) => some (.token (.text value), rest)
  | some (.number, rest) => some (.token .number, rest)
  | some (.other, rest) => some (.token .literal, rest)
  | none =>
    match readMark text with
    | some found => some found
    | none =>
      if startsLikeLiteral text then none
      else (readWord text).map fun (_, rest) => (.token .word, rest)

/-- A parenthesized comment that stands for a literal without a spelling of its own. -/
def unspelledLiteral : List Char := "(/*ERROR*/)".toList

/-- A delimiter at the start of a text. -/
def readDelimiter (text : List Char) : Option (TokenKind × List Char) :=
  match text with
  | '(' :: rest => some (.opening .parenthesis, rest)
  | '[' :: rest => some (.opening .bracket, rest)
  | '{' :: rest => some (.opening .brace, rest)
  | ')' :: rest => some (.closing .parenthesis, rest)
  | ']' :: rest => some (.closing .bracket, rest)
  | '}' :: rest => some (.closing .brace, rest)
  | _ => none

/-- What stands at the start of a text, with what is left behind it. -/
def readLexeme (text : List Char) : Option (Lexeme × List Char) :=
  match text with
  | [] => none
  | '/' :: '/' :: rest => readLineComment rest
  | '/' :: '*' :: rest => readBlockComment rest
  | c :: rest =>
    if isBlank c then some (.blank, rest)
    else if unspelledLiteral.isPrefixOf text then
      some (.token .literal, text.drop unspelledLiteral.length)
    else
      match readDelimiter text with
      | some (kind, rest) => some (.token kind, rest)
      | none => readLeaf text

/-- A documentation comment as an attribute. -/
def documentationTokens (inner : Bool) (comment : String) (position : Position) : List Token :=
  let token := fun (kind : TokenKind) (spelling : String) => Token.mk kind spelling position
  [token (.mark '#' false) "#"] ++ (if inner then [token (.mark '!' false) "!"] else [])
    ++ [token (.opening .bracket) "[", token .word "doc", token (.mark '=' false) "=",
      token (.text comment) (Escaped.literal comment), token (.closing .bracket) "]"]

/-- The delimiters that are open behind a token. A closing one has to match the last opened. -/
def nextOpen (isOpen : List Delimiter) : TokenKind → Option (List Delimiter)
  | .opening delimiter => some (delimiter :: isOpen)
  | .closing delimiter => if isOpen.head? = some delimiter then some isOpen.tail else none
  | _ => some isOpen

/-- The tokens of a text that starts at a position inside of open delimiters. -/
def tokensFrom (isOpen : List Delimiter) (position : Position) (text : List Char)
    : Option (List Token) :=
  match text with
  | [] => if isOpen.isEmpty then some [] else none
  | c :: tail =>
    match readLexeme (c :: tail) with
    | none => none
    | some (lexeme, rest) =>
      -- Nothing is read without at least one character.
      if _ : rest.length < (c :: tail).length then
        let spelling := (c :: tail).take (tail.length + 1 - rest.length)
        let next := position.after spelling
        match lexeme with
        | .blank => tokensFrom isOpen next rest
        | .documentation inner comment =>
          (tokensFrom isOpen next rest).map
            (documentationTokens inner (String.ofList comment) position ++ ·)
        | .token kind =>
          match nextOpen isOpen kind with
          | none => none
          | some stillOpen =>
            (tokensFrom stillOpen next rest).map
              (⟨kind, String.ofList spelling, position⟩ :: ·)
      else none
termination_by text.length
decreasing_by all_goals assumption

/-- The tokens of a text. A byte order mark in front of them is skipped. -/
def tokens (text : String) : Option (List Token) :=
  match text.toList with
  | '\uFEFF' :: rest => tokensFrom [] (Position.start.next '\uFEFF') rest
  | characters => tokensFrom [] .start characters

end NestedSelect.Declaration
