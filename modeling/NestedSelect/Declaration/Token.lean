import NestedSelect.Declaration.Position
/-!
The tokens of a declaration. Delimiters are tokens of their own, and in what the lexer delivers
they are balanced.
-/

namespace NestedSelect.Declaration

/-- The kinds of brackets around a group. -/
inductive Delimiter where
  | parenthesis
  | bracket
  | brace
deriving DecidableEq, Repr

/-- What a token is, apart from its spelling and its place. -/
inductive TokenKind where
  /-- An identifier, a keyword or an underscore. -/
  | word
  /-- A punctuation character. It is `joint` when another one follows at once. -/
  | mark (c : Char) (joint : Bool)
  /-- A string literal with the text it denotes. -/
  | text (value : String)
  | number
  /-- A character, a byte or a string of bytes. -/
  | literal
  | opening (delimiter : Delimiter)
  | closing (delimiter : Delimiter)
deriving DecidableEq, Repr

/-- A token with its spelling, and where it starts. -/
structure Token where
  kind : TokenKind
  /-- The token as it is written. -/
  spelling : String
  position : Position
deriving DecidableEq, Repr

namespace Token

/-- Words with a meaning of their own. None of them is an identifier. -/
def keywords : List String :=
  ["_", "abstract", "as", "become", "box", "break", "const", "continue", "crate", "do", "else",
    "enum", "extern", "false", "final", "fn", "for", "if", "impl", "in", "let", "loop", "macro",
    "match", "mod", "move", "mut", "override", "priv", "pub", "ref", "return", "Self", "self",
    "static", "struct", "super", "trait", "true", "type", "typeof", "unsafe", "unsized", "use",
    "virtual", "where", "while", "yield"]

/-- The token is a certain word. -/
def isWord (token : Token) (spelling : String) : Bool :=
  token.kind = .word && token.spelling = spelling

def isIdentifier (token : Token) : Bool :=
  token.kind = .word && !keywords.contains token.spelling

/-- The token is a certain mark. -/
def isMark (token : Token) (c : Char) : Bool :=
  match token.kind with
  | .mark d _ => c = d
  | _ => false

/-- A mark that is followed by another one at once. -/
def isJointMark (token : Token) (c : Char) : Bool :=
  token.kind = .mark c true

/-- The token opens a group. -/
def isOpening (token : Token) (delimiter : Delimiter) : Bool :=
  token.kind = .opening delimiter

/-- A token that is written although it does not stand in the text. -/
def synthetic (kind : TokenKind) (spelling : String) : Token := ⟨kind, spelling, .start⟩

/-- The token closes a group. -/
def isClosing (token : Token) : Bool :=
  match token.kind with
  | .closing _ => true
  | _ => false

/-- The token opens or closes a group. -/
def isDelimiter (token : Token) : Bool :=
  match token.kind with
  | .opening _ | .closing _ => true
  | _ => false

end Token

/-- Tokens as text, with nothing between them. -/
def spell (tokens : List Token) : String :=
  String.join (tokens.map (·.spelling))

end NestedSelect.Declaration
