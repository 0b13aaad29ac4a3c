import NestedSelect.Declaration.Grammar.Item
/-!
Reading the statements of a block.
-/

namespace NestedSelect.Declaration

open Reader

/-- What makes an item of a statement comes next. -/
def nextItem : Lookahead := fun tokens =>
  let isStatic :=
    second (nextWord "mut") tokens
      || (second nextIdentifier tokens
        && !(second (nextWord "async") tokens
          && third (nextOf [nextWord "move", nextMark '|']) tokens))
  nextWordOf ["pub", "extern", "use", "fn", "mod", "type", "struct", "enum", "trait", "impl",
      "macro"] tokens
    || (nextWord "crate" tokens && !second (nextMarks "::") tokens)
    || (nextWord "static" tokens && isStatic)
    || (nextWordOf ["const", "unsafe"] tokens && !second (nextGroup .brace) tokens)
    || (nextWord "async" tokens && second (nextWordOf ["unsafe", "extern", "fn"]) tokens)
    || (nextWord "existential" tokens && second (nextWord "type") tokens)
    || (nextWord "union" tokens && second nextIdentifier tokens)
    || nextAutoTrait tokens
    || (nextWord "default" tokens && second (nextWordOf ["unsafe", "impl"]) tokens)

/-- A macro comes next behind its path that is a statement by itself: one with its arguments in
braces, unless the result is accessed, or one that defines a name.
-/
def nextMacroStatement : Lookahead := fun tokens =>
  nextMark '!' tokens
    && ((second (nextGroup .brace) tokens && !third (nextOf [nextMark '.', nextMark '?']) tokens)
      || second nextIdentifier tokens)

/-- The path of a macro that is a statement by itself. Of anything else nothing is read. -/
def macroStatementPath : Reader (Option Unit) :=
  attempt do
    let _ ← plainPath
    return if ← sees nextMacroStatement then some () else none

/-- A macro that is a statement by itself, behind its path. -/
def macroStatementBehind : Reader Unit := do
  marks "!"
  let _ ← optionally nextIdentifier (take 1)
  let _ ← anyGroup
  let _ ← marksIf ";"

namespace Grammar

variable (g : Grammar)

/-- The definition of a variable, and whether it has an alternative for values that do not match.
-/
def localVariable : Reader Bool := do
  word "let"
  g.alternativesWithBar
  if ← marksIf ":" then
    let _ ← g.type true
  let hasAlternative ← if ← marksIf "=" then
      let _ ← g.expression true
      optionally (nextWord "else") (do word "else"; g.block)
    else pure false
  marks ";"
  return hasAlternative

/-- A statement that is an expression, perhaps with a semicolon behind it. Attributes have been
read in front of it.
-/
def expressionStatement (added : Record) : Reader Bool := do
  let (form, record) ← recorded (g.leading ())
  unless form.dropsAttributes do write added.written
  write record.written
  return !(← marksIf ";") && !form.endsItself

/-- One statement. It is told whether nothing may follow it. -/
def statement : Reader Bool := do
  let (_, added) ← recorded attributes
  let (macroPath, record) ← recorded macroStatementPath
  if macroPath.isSome then
    write (added.written ++ record.written)
    macroStatementBehind
    return false
  else if ← sees (nextWord "let") then
    let (hasAlternative, record) ← recorded g.localVariable
    write
      (if hasAlternative then added.given ++ record.given else added.written ++ record.written)
    return false
  else if ← sees nextItem then
    let (isVerbatim, record) ← recorded g.bareItem
    write (if isVerbatim then record.given else added.written ++ record.written)
    return false
  else g.expressionStatement added

/-- The statements of a block, up to the end of its group, with any number of semicolons in front
of each of them.
-/
def readStatements : Reader Unit := do
  let semicolon := fun (_ : Unit) => do
    if ← marksIf ";" then return some () else return none
  let step := fun (_ : Unit) => do
    iterate semicolon ()
    if ← sees atEnd then return none
    let isLast ← g.statement
    if isLast && !(← sees atEnd) then fail fun _ => .unexpectedToken
    return some ()
  iterate step ()

end Grammar

end NestedSelect.Declaration
