import NestedSelect.Declaration.Literal
import NestedSelect.Declaration.Reader
/-!
Questions about the tokens that come next. None of them is true of a delimiter that closes, and
so none looks beyond the end of a group.
-/

namespace NestedSelect.Declaration

/-- A question about the tokens that come next. -/
abbrev Lookahead := List Token → Bool

/-- The next token has a property. -/
def next (property : Token → Bool) : Lookahead :=
  fun tokens => tokens.head?.any property

/-- A certain word comes next. -/
def nextWord (spelling : String) : Lookahead := next (·.isWord spelling)

/-- Any word comes next, be it a name or not. -/
def nextAnyWord : Lookahead := next (·.kind = .word)

/-- One of some words comes next. -/
def nextWordOf (spellings : List String) : Lookahead :=
  next fun token => spellings.any (token.isWord ·)

/-- A name comes next. -/
def nextIdentifier : Lookahead := next (·.isIdentifier)

/-- A certain mark comes next. -/
def nextMark (c : Char) : Lookahead := next (·.isMark c)

/-- Some marks come next with nothing between them. -/
def nextAllMarks : List Char → Lookahead
  | [], _ => true
  | c :: others, tokens =>
    if others.isEmpty then nextMark c tokens
    else next (·.isJointMark c) tokens && nextAllMarks others (tokens.drop 1)

/-- Some marks come next with nothing between them. -/
def nextMarks (spelling : String) : Lookahead := nextAllMarks spelling.toList

/-- A group comes next. -/
def nextGroup (delimiter : Delimiter) : Lookahead := next (·.isOpening delimiter)

/-- The name of a lifetime comes next. -/
def nextLifetime : Lookahead := fun tokens =>
  next (·.isJointMark '\'') tokens && nextAnyWord (tokens.drop 1)

/-- A string literal comes next. -/
def nextText : Lookahead := next fun token =>
  match token.kind with
  | .text _ => true
  | _ => false

/-- A number comes next, perhaps behind a minus sign, and it is an integer or has a fraction. -/
def nextNumber (isInteger : Bool) : Lookahead := fun tokens =>
  let number := if nextMark '-' tokens then tokens.drop 1 else tokens
  number.head?.any fun token =>
    token.kind = .number && (integer? token.spelling.toList).isSome = isInteger

/-- A literal comes next. The two truth values are literals, too. -/
def nextLiteral : Lookahead := fun tokens =>
  nextText tokens || next (fun token => token.kind = .literal) tokens
    || nextWordOf ["true", "false"] tokens
    || nextNumber true tokens || nextNumber false tokens

/-- One of several things comes next. -/
def nextOf (choices : List Lookahead) : Lookahead := fun tokens => choices.any (· tokens)

/-- What is left behind a single token, a lifetime or a group. -/
def skipTree (tokens : List Token) : List Token :=
  match tokens with
  | [] => []
  | token :: rest =>
    match token.kind with
    | .closing _ => token :: rest
    | .opening _ => (groupEnd rest).drop 1
    | _ => if nextLifetime tokens then rest.drop 1 else rest

/-- Something comes next but one. -/
def second (what : Lookahead) : Lookahead := fun tokens => what (skipTree tokens)

/-- Something comes next but two. -/
def third (what : Lookahead) : Lookahead := fun tokens => what (skipTree (skipTree tokens))

end NestedSelect.Declaration
