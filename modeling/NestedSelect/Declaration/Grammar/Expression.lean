import NestedSelect.Declaration.Grammar.Pattern
import NestedSelect.Declaration.Grammar.Bound
/-!
Reading the parts of expressions: what follows an operand behind a dot or in brackets, blocks with
the words in front of them, and the simple operands.
-/

namespace NestedSelect.Declaration

open Reader

/-- Lifetimes for which a closure is stated come next. -/
def nextForLifetimes : Lookahead := fun tokens =>
  nextWord "for" tokens && second (nextMark '<') tokens
    && third (nextOf [nextLifetime, nextMark '>']) tokens

/-- A closure comes next. -/
def nextClosure : Lookahead := fun tokens =>
  nextMark '|' tokens || nextWordOf ["static", "move"] tokens
    || (nextWord "async" tokens && second (nextOf [nextMark '|', nextWord "move"]) tokens)

/-- An asynchronous block comes next. -/
def nextAsyncBlock : Lookahead := fun tokens =>
  nextWord "async" tokens
    && (second (nextGroup .brace) tokens
      || (second (nextWord "move") tokens && third (nextGroup .brace) tokens))

/-- A block that may fail comes next. -/
def nextTryBlock : Lookahead := fun tokens =>
  nextWord "try" tokens && second (nextGroup .brace) tokens

/-- A word that leaves a loop or a function has no operand if this comes next. -/
def endsOperand : Lookahead := nextOf [atEnd, nextMark ',', nextMark ';']

/-- A range has no upper bound if this comes next. -/
def endsRange (allowFields : Bool) : Lookahead := fun tokens =>
  endsOperand tokens || nextSingleDot tokens || (!allowFields && nextGroup .brace tokens)

/-- What must not follow a type that an operand is cast to. -/
def castFault? (tokens : List Token) : Option Fault :=
  if nextSingleDot tokens then
    if second (nextWord "await") tokens then some (.castFollowed "`.await`")
    else if second nextIdentifier tokens
        && third (nextOf [nextGroup .parenthesis, nextMarks "::"]) tokens then
      some (.castFollowed "a method call")
    else some (.castFollowed "a field access")
  else if nextMark '?' tokens then some (.castFollowed "`?`")
  else if nextGroup .bracket tokens then some (.castFollowed "indexing")
  else if nextGroup .parenthesis tokens then some (.castFollowed "a function call")
  else none

namespace Grammar

variable (g : Grammar)

/-! ## Accesses -/

/-- Expressions with commas between them, up to the end of their group. -/
def expressions : Reader Unit := do
  let _ ← listed (g.expression true)

/-- An argument in angle brackets behind the name of a method. -/
def methodArgument : Reader Unit := do
  if ← sees (nextOf [nextLiteral, nextGroup .brace]) then g.constant
  else
    let _ ← g.type true

/-- Arguments in angle brackets behind the name of a method. -/
def methodArguments : Reader Unit := do
  marks "::"
  marks "<"
  let _ ← separated (nextMark '>') g.methodArgument
  marks ">"

/-- A field or a method behind its dot. -/
def memberAccess : Reader Unit := do
  unless ← wordIf "await" do
    let isNumber ← member
    let hasArguments ← if isNumber then pure false
      else optionally (nextMarks "::") g.methodArguments
    if hasArguments || (!isNumber && (← sees (nextGroup .parenthesis))) then
      group .parenthesis g.expressions

/-- What is behind a dot. A number with a fraction names several fields. -/
def dotAccess : Reader Unit := do
  if ← sees (nextNumber false) then
    if ← numberedFields then g.memberAccess
  else g.memberAccess

/-- Calls, fields, methods, elements and question marks behind an operand. -/
def accesses (form : ExpressionForm) : Reader ExpressionForm := do
  let step := fun (form : ExpressionForm) => do
    if ← sees (nextGroup .parenthesis) then
      group .parenthesis g.expressions
      return some {}
    else if !form.isRange && (← sees nextSingleDot) then
      marks "."
      g.dotAccess
      return some {}
    else if ← sees (nextGroup .bracket) then
      let _ ← group .bracket (g.expression true)
      return some {}
    else if ← marksIf "?" then return some {}
    else return none
  iterate step form

/-! ## Blocks -/

/-- A label with its colon. -/
def label : Reader Unit := do
  lifetime
  marks ":"

/-- An expression in front of a block. -/
def condition : Reader Unit := do
  let _ ← g.expression false

/-- The alternative of a condition. -/
def elseIf : Reader Bool := do
  if ← wordIf "else" then
    if ← sees (nextWord "if") then return true
    else if ← sees (nextGroup .brace) then
      g.block
      return false
    else failMissingOf []
  else return false

/-- Conditions with a block each, and perhaps a last block. -/
def conditional : Reader Unit := do
  let step := fun (isOpen : Bool) => do
    if isOpen then
      word "if"
      g.condition
      g.block
      return some (← g.elseIf)
    else return none
  let _ ← iterate step true

/-- A loop with a condition. -/
def whileLoop : Reader Unit := do
  word "while"
  g.condition
  let _ ← g.attributedBlock

/-- A loop over elements. -/
def forLoop : Reader Unit := do
  word "for"
  g.alternativesWithBar
  word "in"
  g.condition
  let _ ← g.attributedBlock

/-- A loop without a condition. -/
def loop : Reader Unit := do
  word "loop"
  let _ ← g.attributedBlock

/-- A block that is marked by a word. -/
def markedBlock (mark : String) : Reader Unit := do
  word mark
  let _ ← g.attributedBlock

/-- An asynchronous block. -/
def asyncBlock : Reader Unit := do
  word "async"
  let _ ← wordIf "move"
  g.block

/-- A block that may fail. -/
def tryBlock : Reader Unit := do
  word "try"
  g.block

/-! ## Operands -/

/-- A list in parentheses: a tuple, or a single expression. -/
def parenthesized : Reader Unit := group .parenthesis g.expressions

/-- Elements in square brackets, or one element and how often it stands there. -/
def array : Reader Unit :=
  group .bracket do
    unless ← sees atEnd do
      let _ ← g.expression true
      if ← sees atEnd then return
      else if ← marksIf "," then g.expressions
      else if ← marksIf ";" then
        let _ ← g.expression true
      else failMissing "`,` or `;`"

/-- The value of a field. It may be missing behind a name, but not behind a number. -/
def fieldValue : Reader Unit := do
  let _ ← attributes
  let isNumber ← member
  if isNumber || (← sees (nextMark ':')) then
    marks ":"
    let _ ← g.expression true

/-- The fields of a structure, up to the end of their group. All other fields may be taken from
another one, and nothing is read behind that.
-/
def fieldValues : Reader Unit := do
  let step := fun (isComplete : Bool) => do
    if isComplete || (← sees atEnd) then return none
    if ← marksIf ".." then
      unless ← sees atEnd do
        let _ ← g.expression true
      return some true
    g.fieldValue
    unless ← sees atEnd do marks ","
    return some false
  let _ ← iterate step false

/-- An operand that starts with a path: a name, a macro with its arguments, or a structure. -/
def routeOperand (allowFields : Bool) : Reader ExpressionForm := do
  let route ← g.route true
  if !route.isQualified && route.isPlain && (← sees nextMacroMark) then
    marks "!"
    let _ ← anyGroup
    return {}
  else if allowFields && (← sees (nextGroup .brace)) then
    group .brace g.fieldValues
    return if route.isQualified then .verbatim else { isStructure := true }
  else return {}

/-- A parameter of a closure. -/
def closureParameter : Reader Unit := do
  let _ ← attributes
  g.pattern ()
  if ← marksIf ":" then
    let _ ← g.type true

/-- A closure. With a return type its body has to be a block. -/
def closure (allowFields : Bool) : Reader Unit := do
  let _ ← wordIf "static"
  let _ ← wordIf "async"
  let _ ← wordIf "move"
  marks "|"
  let _ ← separated (nextMark '|') g.closureParameter
  marks "|"
  match ← g.returnType true with
  | some _ => g.block
  | none =>
    let _ ← g.expression allowFields

/-- An operand that a word takes along, which may be missing. -/
def taken (ends : Lookahead) (allowFields : Bool) : Reader Unit := do
  unless ← sees ends do
    let _ ← g.expression allowFields

/-- The word that leaves a loop, with a label and a value. -/
def breakOperand (allowFields : Bool) : Reader Unit := do
  word "break"
  let _ ← lifetimeIf
  let ends := fun tokens => endsOperand tokens || (!allowFields && nextGroup .brace tokens)
  g.taken ends allowFields

/-- The test of a pattern. A structure that is tested is written in parentheses. -/
def letOperand (allowFields : Bool) : Reader Unit := do
  word "let"
  g.alternativesWithBar
  marks "="
  let tested : Reader ExpressionForm := do
    g.operations allowFields .comparison (← g.operand allowFields)
  let (form, record) ← recorded tested
  write <|
    if form.isStructure then
      [.synthetic (.opening .parenthesis) "("] ++ record.written
        ++ [.synthetic (.closing .parenthesis) ")"]
    else record.written

/-- A range without a lower bound. -/
def upwardOperand (allowFields : Bool) : Reader Unit := do
  let _ ← rangeDots
  g.taken (endsRange allowFields) allowFields

/-- A loop or a block behind a label. -/
def labelled : Reader Unit := do
  label
  if ← sees (nextWord "while") then g.whileLoop
  else if ← sees (nextWord "for") then g.forLoop
  else if ← sees (nextWord "loop") then g.loop
  else if ← sees (nextGroup .brace) then
    let _ ← g.attributedBlock
  else failMissing "loop or block expression"

end Grammar

end NestedSelect.Declaration
