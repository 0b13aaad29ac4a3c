import NestedSelect.Declaration.Lookahead
/-!
Reading words, marks, groups and lists. A list of tokens ends where no token is left or where the
delimiter closes in which it stands. That delimiter is then the place of an error.
-/

namespace NestedSelect.Declaration

open Reader

variable {α β : Type}

/-! ## What is expected -/

/-- Something else is expected than what comes next. -/
def missing (what : String) (tokens : List Token) : Fault :=
  if atEnd tokens then .exhausted what else .expected what

/-- One of several things is expected. Where nothing is known to fit, only what is there instead
is told.
-/
def missingOf (choices : List String) (tokens : List Token) : Fault :=
  match choices with
  | [] => if atEnd tokens then .unexpectedEnd else .unexpectedToken
  | [only] => missing only tokens
  | [first, second] => missing (first ++ " or " ++ second) tokens
  | _ => missing ("one of: " ++ ", ".intercalate choices) tokens

/-- Something is expected here. -/
def failMissing (what : String) : Reader α := fail (missing what)

/-- One of several things is expected here. -/
def failMissingOf (choices : List String) : Reader α := fail (missingOf choices)

/-- A word or mark as it is named in messages. -/
def named (spelling : String) : String := "`" ++ spelling ++ "`"

/-! ## Single tokens -/

/-- The next tokens answer to something. -/
def sees (what : Lookahead) : Reader Bool := look what

/-- Read something if it comes next, and tell whether it did. -/
def optionally (what : Lookahead) (reader : Reader Unit) : Reader Bool := do
  if ← sees what then
    reader
    return true
  else return false

/-- The next token, which has to have a property. -/
def expect (what : String) (property : Token → Bool) : Reader Token := do
  match ← look fun tokens => tokens.head?.filter property with
  | some token =>
    take 1
    return token
  | none => failMissing what

/-- A certain word. -/
def word (spelling : String) : Reader Unit := do
  let _ ← expect (named spelling) (·.isWord spelling)

/-- A certain word that may be missing. It is told whether it was there. -/
def wordIf (spelling : String) : Reader Bool := optionally (nextWord spelling) (word spelling)

/-- A name. -/
def identifier : Reader String := do
  return (← expect "identifier" (·.isIdentifier)).spelling

/-- Any word, be it a name or not. -/
def anyWord : Reader String := do
  return (← expect "ident" (·.kind = .word)).spelling

/-- A name or an underscore. -/
def nameOrUnderscore : Reader Unit := do
  if ← sees (nextOf [nextIdentifier, nextWord "_"]) then
    let _ ← anyWord
  else failMissingOf ["identifier", named "_"]

/-- Some marks with nothing between them. That another token stands here and that none is left
are told alike.
-/
def marks (spelling : String) : Reader Unit := do
  if ← sees (nextMarks spelling) then take spelling.length
  else fail fun _ => .expected (named spelling)

/-- Some marks that may be missing. It is told whether they were there. -/
def marksIf (spelling : String) : Reader Bool := optionally (nextMarks spelling) (marks spelling)

/-- The name of a lifetime. -/
def lifetime : Reader Unit := do
  if ← sees nextLifetime then take 2 else failMissing "lifetime"

/-- The name of a lifetime that may be missing. -/
def lifetimeIf : Reader Bool := optionally nextLifetime lifetime

/-- The text of a string literal. -/
def stringLiteral : Reader String := do
  let text? := fun (tokens : List Token) =>
    match tokens with
    | ⟨.text value, _, _⟩ :: _ => some value
    | _ => none
  match ← look text? with
  | some value =>
    take 1
    return value
  | none => failMissing "string literal"

/-- Any literal. -/
def literal : Reader Unit := do
  if ← sees nextLiteral then take (if ← sees (nextMark '-') then 2 else 1)
  else failMissing "literal"

/-! ## Groups -/

/-- How a delimited group is named in messages. -/
def Delimiter.groupName : Delimiter → String
  | .parenthesis => "parentheses"
  | .bracket => "square brackets"
  | .brace => "curly braces"

/-- A group, and behind it something that depends on its contents. What is left over in the group
counts only when all of that has been read.
-/
def groupThen (delimiter : Delimiter) (contents : Reader α) (behind : α → Reader β)
    : Reader β :=
  enclosed delimiter (missing delimiter.groupName) contents behind

/-- A group. -/
def group (delimiter : Delimiter) (contents : Reader α) : Reader α :=
  groupThen delimiter contents pure

/-- A group of any kind, whatever its contents. -/
def anyGroup : Reader Delimiter := do
  let kind := fun (tokens : List Token) =>
    match tokens with
    | ⟨.opening delimiter, _, _⟩ :: _ => some delimiter
    | _ => none
  match ← look kind with
  | some delimiter =>
    let _ ← group delimiter allTokens
    return delimiter
  | none => failMissing "delimiter"

/-! ## Lists -/

/-- Items with commas between them and perhaps behind the last one, up to where the list ends. -/
def separated (ends : Lookahead) (item : Reader α) : Reader (List α) := do
  let step := fun (items : List α) => do
    if ← sees ends then return none
    let value ← item
    unless ← sees ends do marks ","
    return some (value :: items)
  return (← iterate step []).reverse

/-- Items with commas between them up to the end of their group. -/
def listed (item : Reader α) : Reader (List α) := separated atEnd item

/-- Items up to the end of their group. -/
def repeated (item : Reader α) : Reader (List α) := do
  let step := fun (items : List α) => do
    if ← sees atEnd then return none
    return some ((← item) :: items)
  return (← iterate step []).reverse

/-- Items with a mark between them and perhaps behind the last one, up to where the list ends or
the mark does not follow.
-/
def chained (mark : String) (ends : Lookahead) (item : Reader α) : Reader (List α) := do
  let step := fun (state : List α × Bool) => do
    if !state.2 || (← sees ends) then return none
    let value ← item
    return some (value :: state.1, ← marksIf mark)
  return (← iterate step ([], true)).1.reverse

/-- Items with plus signs between every two of them, up to where the list ends. -/
def joined (ends : Lookahead) (item : Reader α) : Reader (List α) := do
  let step := fun (items : List α) => do
    if ← sees ends then return none
    let value ← item
    unless ← sees ends do marks "+"
    return some (value :: items)
  return (← iterate step []).reverse

/-- An item of a list that is written only when all of the list is known. -/
structure Piece (α : Type) where
  value : α
  tokens : List Token
  comma : List Token

/-- Items with commas between them, none of which is written yet. -/
def pieces (ends : Lookahead) (item : Reader α) : Reader (List (Piece α)) := do
  let step := fun (items : List (Piece α)) => do
    if ← sees ends then return none
    let (value, record) ← recorded item
    let isLast ← sees ends
    let (_, comma) ← recorded (if isLast then pure () else marks ",")
    return some (⟨value, record.written, comma.written⟩ :: items)
  return (← iterate step []).reverse

/-- Pieces with commas between them. -/
def Piece.join : List (Piece α) → List Token
  | [] => []
  | piece :: rest =>
    let comma :=
      if piece.comma.isEmpty && !rest.isEmpty then [Token.synthetic (.mark ',' false) ","]
      else piece.comma
    piece.tokens ++ comma ++ Piece.join rest

/-- Write a list in which lifetimes come first. -/
def writeLifetimesFirst (items : List (Piece Bool)) : Reader Unit :=
  let (lifetimes, others) := items.partition (·.value)
  write (Piece.join (lifetimes ++ others))

end NestedSelect.Declaration
