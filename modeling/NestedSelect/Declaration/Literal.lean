import NestedSelect.Declaration.Remainder
import NestedSelect.Text.Identifier
/-!
Literals at the start of a text. Each reader answers with what is left behind the literal, and a
string also with the text that it denotes.
-/

namespace NestedSelect.Declaration

def isHexDigit (c : Char) : Bool :=
  c.isDigit || ('a' ≤ c && c ≤ 'f') || ('A' ≤ c && c ≤ 'F')

/-- The value of a hexadecimal digit. -/
def hexValue (c : Char) : Nat :=
  if c.isDigit then c.toNat - '0'.toNat
  else if 'a' ≤ c then c.toNat - 'a'.toNat + 10
  else c.toNat - 'A'.toNat + 10

/-- The number that hexadecimal digits denote, the most significant digit first. -/
def hexNumber (digits : List Char) : Nat :=
  digits.foldl (fun n c => 16 * n + hexValue c) 0

/-- Characters with the property White_Space. -/
def isWhiteSpace (c : Char) : Bool :=
  let n := c.toNat
  (0x09 ≤ n && n ≤ 0x0D) || (0x2000 ≤ n && n ≤ 0x200A)
    || [0x20, 0x85, 0xA0, 0x1680, 0x2028, 0x2029, 0x202F, 0x205F, 0x3000].contains n

/-- Every carriage return is followed by a line feed. -/
def noBareReturn : List Char → Bool
  | [] => true
  | '\r' :: '\n' :: rest => noBareReturn rest
  | c :: rest => c ≠ '\r' && noBareReturn rest

/-- What a literal consists of. -/
inductive Content where
  | characters
  /-- Bytes, which are written as ASCII. -/
  | bytes
  /-- Characters and bytes other than zero. -/
  | nonzero
deriving DecidableEq, Repr

/-- A character may stand for itself. -/
def Content.allows (content : Content) (c : Char) : Bool :=
  match content with
  | .characters => true
  | .bytes => c.toNat < 0x80
  | .nonzero => c ≠ '\x00'

/-- An escape may denote the byte with two hexadecimal digits. -/
def Content.allowsByte (content : Content) (value : Nat) : Bool :=
  match content with
  | .characters => value < 0x80
  | .bytes => true
  | .nonzero => value ≠ 0

/-- A blank that is skipped behind a backslash at the end of a line. -/
def isLineBlank (c : Char) : Bool :=
  c = ' ' || c = '\t' || c = '\n' || c = '\r'

/-- The character named between braces by its code point: one to six hexadecimal digits, with
underscores anywhere behind the first one.
-/
def readCodePoint (text : List Char) : Option (Char × Shorter text) :=
  match text with
  | '{' :: inner =>
    let body := inner.takeWhile (· ≠ '}')
    let digits := body.filter (· ≠ '_')
    match h : inner.dropWhile (· ≠ '}') with
    | _ :: rest =>
      let code := hexNumber digits
      if body.head? ≠ some '_' && digits.all isHexDigit && digits.length ≤ 6 && !digits.isEmpty
          && (code < 0xD800 || (0xE000 ≤ code && code < 0x110000)) then
        some (Char.ofNat code, ⟨rest, by
          have := length_dropWhile_le (· ≠ '}') inner
          rw [h] at this
          simp only [List.length_cons] at this ⊢
          omega⟩)
      else none
    | [] => none
  | _ => none

/-- Characters that a letter or a mark of their own stands for behind a backslash. -/
def namedEscape? : Char → Option Char
  | 'n' => some '\n'
  | 'r' => some '\r'
  | 't' => some '\t'
  | '0' => some '\x00'
  | '\\' => some '\\'
  | '\'' => some '\''
  | '"' => some '"'
  | _ => none

/-- The character that an escape denotes, behind its backslash. -/
def readEscape (content : Content) (text : List Char) : Option (Char × Shorter text) :=
  match text with
  | 'x' :: high :: low :: rest =>
    let value := 16 * hexValue high + hexValue low
    if isHexDigit high && isHexDigit low && content.allowsByte value then
      some (Char.ofNat value, (Shorter.tail₂ high low rest).behind (Nat.lt_succ_self _))
    else none
  | 'u' :: code =>
    match readCodePoint code with
    | some (c, rest) =>
      if content ≠ .bytes && content.allows c then some (c, rest.behind (Nat.lt_succ_self _))
      else none
    | none => none
  | c :: rest =>
    match namedEscape? c with
    | some denoted => if content.allows denoted then some (denoted, .tail c rest) else none
    | none => none
  | [] => none

/-- The rest of a string behind its opening quote: the text it denotes, and what follows the
closing quote. A backslash at the end of a line skips the blanks that follow.
-/
def readString (content : Content) (text : List Char) : Option (List Char × List Char) :=
  match text with
  | [] => none
  | '"' :: rest => some ([], rest)
  | '\r' :: '\n' :: rest => (readString content rest).map fun (value, rest) => ('\n' :: value, rest)
  | '\\' :: rest =>
    if rest.head? = some '\n' || rest.head? = some '\r' then
      if noBareReturn (rest.takeWhile isLineBlank) then
        readString content (rest.dropWhile isLineBlank)
      else none
    else
      match readEscape content rest with
      | some (c, ⟨rest, _⟩) =>
        (readString content rest).map fun (value, rest) => (c :: value, rest)
      | none => none
  | c :: rest =>
    if c = '\r' || !content.allows c then none
    else (readString content rest).map fun (value, rest) => (c :: value, rest)
termination_by text.length
decreasing_by
  all_goals
    have := length_dropWhile_le isLineBlank rest
    simp only [List.length_cons]
    omega

/-- The rest of a raw string, which ends with a quote and as many `#` as stand before it. -/
def readRawString (content : Content) (hashes : Nat) : List Char → Option (List Char × List Char)
  | [] => none
  | c :: rest =>
    if c = '"' && rest.take hashes = List.replicate hashes '#' then some ([], rest.drop hashes)
    else if (c = '\r' && rest.head? ≠ some '\n') || !content.allows c then none
    else (readRawString content hashes rest).map fun (value, rest) => (c :: value, rest)

/-- A raw string from the `#` before its quote on. -/
def readHashedString (content : Content) (text : List Char) : Option (List Char × List Char) :=
  let hashes := (text.takeWhile (· = '#')).length
  match text.dropWhile (· = '#') with
  | '"' :: rest => if hashes ≤ 255 then readRawString content hashes rest else none
  | _ => none

/-- The name at the start of a text. -/
def readName (text : List Char) : Option (List Char × List Char) :=
  match text with
  | c :: rest =>
    if Identifier.isStart c then
      some (c :: rest.takeWhile Identifier.isContinue, rest.dropWhile Identifier.isContinue)
    else none
  | [] => none

/-- What is left behind the suffix of a literal, if it has one. -/
def dropSuffix (text : List Char) : List Char :=
  match readName text with
  | some (_, rest) => rest
  | none => text

/-- A single character or byte behind its opening quote. -/
def readCharacter (content : Content) (text : List Char) : Option (List Char) :=
  let rest :=
    match text with
    | '\\' :: rest => (readEscape content rest).map (·.2.1)
    | c :: rest => if content.allows c then some rest else none
    | [] => none
  match rest with
  | some ('\'' :: rest) => some (dropSuffix rest)
  | _ => none

/-- What is left behind a number and its suffix. A number ends where a word would end. -/
def endNumber (text : List Char) : Option (List Char) :=
  let rest := dropSuffix text
  if rest.head?.any Identifier.isContinue then none else some rest

def isDigitOrUnderscore (c : Char) : Bool :=
  c.isDigit || c = '_'

/-- What is left behind an exponent, from its sign on, if it has digits. -/
def readExponent (text : List Char) : Option (List Char) :=
  let signed := text.dropWhile (· = '_')
  let digits :=
    match signed with
    | c :: rest => if c = '+' || c = '-' then rest else signed
    | [] => []
  if (digits.takeWhile isDigitOrUnderscore).any Char.isDigit then
    some (digits.dropWhile isDigitOrUnderscore)
  else none

/-- What is left behind a number with a fraction or an exponent. -/
def readFraction (text : List Char) : Option (List Char) :=
  if text.head?.any Char.isDigit then
    match text.dropWhile isDigitOrUnderscore with
    | '.' :: rest =>
      if rest.head?.any (fun c => c = '.' || Identifier.isStart c) then none
      else
        let rest := rest.dropWhile isDigitOrUnderscore
        match rest with
        | c :: power =>
          if c = 'e' || c = 'E' then endNumber ((readExponent power).getD rest)
          else endNumber rest
        | [] => some []
    | c :: power =>
      if c = 'e' || c = 'E' then (readExponent power).bind endNumber else none
    | [] => none
  else none

/-- What is left behind the digits of an integer in a base. -/
def readDigits (base : Nat) (text : List Char) : Option (List Char) :=
  let isDigit := fun (c : Char) => c = '_' || (isHexDigit c && (c.isDigit || base = 16))
  let digits := text.takeWhile isDigit
  if digits.any (· ≠ '_') && digits.all (fun c => c = '_' || hexValue c < base)
      && (base ≠ 10 || digits.head? ≠ some '_') then
    some (text.dropWhile isDigit)
  else none

/-- What is left behind an integer. -/
def readInteger (text : List Char) : Option (List Char) :=
  let digits :=
    match text with
    | '0' :: 'x' :: rest => readDigits 16 rest
    | '0' :: 'o' :: rest => readDigits 8 rest
    | '0' :: 'b' :: rest => readDigits 2 rest
    | _ => readDigits 10 text
  digits.bind endNumber

/-- The value of an integer that has been read, and its suffix. A number with a fraction or an
exponent is none.
-/
def integer? (spelling : List Char) : Option (Nat × List Char) :=
  let split := fun (base : Nat) (text : List Char) =>
    let isDigit := fun (c : Char) => c = '_' || (isHexDigit c && (c.isDigit || base = 16))
    let digits := (text.takeWhile isDigit).filter (· ≠ '_')
    (digits.foldl (fun n c => base * n + hexValue c) 0, text.dropWhile isDigit)
  match spelling with
  | '0' :: 'x' :: rest => some (split 16 rest)
  | '0' :: 'o' :: rest => some (split 8 rest)
  | '0' :: 'b' :: rest => some (split 2 rest)
  | _ =>
    match split 10 spelling with
    | (value, c :: suffix) =>
      let power := suffix.dropWhile (· = '_')
      let isPower := power.head?.any fun c => c.isDigit || c = '+' || c = '-'
      if c = '.' || ((c = 'e' || c = 'E') && isPower) then none else some (value, c :: suffix)
    | found => some found

/-- What is left behind a number. -/
def readNumber (text : List Char) : Option (List Char) :=
  match readFraction text with
  | some rest => some rest
  | none => readInteger text

/-- The literals of a declaration. -/
inductive Literal where
  | text (value : String)
  | number
  | other
deriving DecidableEq, Repr

/-- The literal at the start of a text, with what is left behind it. -/
def readLiteral (text : List Char) : Option (Literal × List Char) :=
  let denoted := fun (found : Option (List Char × List Char)) =>
    found.map fun (value, rest) => (Literal.text (String.ofList value), dropSuffix rest)
  let undenoted := fun (found : Option (List Char × List Char)) =>
    found.map fun (_, rest) => (Literal.other, dropSuffix rest)
  let single := fun (found : Option (List Char)) => found.map fun rest => (Literal.other, rest)
  let number := (readNumber text).map fun rest => (Literal.number, rest)
  match text with
  | '"' :: rest => denoted (readString .characters rest)
  | 'r' :: rest => denoted (readHashedString .characters rest)
  | 'b' :: '"' :: rest => undenoted (readString .bytes rest)
  | 'b' :: 'r' :: rest => undenoted (readHashedString .bytes rest)
  | 'c' :: '"' :: rest => undenoted (readString .nonzero rest)
  | 'c' :: 'r' :: rest => undenoted (readHashedString .nonzero rest)
  | 'b' :: '\'' :: rest => single (readCharacter .bytes rest)
  | '\'' :: rest => single (readCharacter .characters rest)
  | _ => number

end NestedSelect.Declaration
