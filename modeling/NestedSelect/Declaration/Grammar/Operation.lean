import NestedSelect.Declaration.Grammar.Expression
/-!
Reading expressions. An expression is an operand, which may have operators in front of it and
accesses behind it, together with the operations on it. Where a statement starts, an expression
that ends with a block is complete unless something of the block is accessed.
-/

namespace NestedSelect.Declaration

open Reader

namespace Grammar

variable (g : Grammar)

/-! ## Operands -/

/-- One arm of a case distinction. A comma has to follow it unless it is the last one or ends by
itself.
-/
def arm : Reader Unit := do
  let _ ← attributes
  g.alternativesWithBar
  if ← wordIf "if" then
    let _ ← g.expression true
  marks "=>"
  let body ← g.leading ()
  if body.endsItself || (← sees atEnd) then
    let _ ← marksIf ","
  else marks ","

/-- A case distinction. -/
def caseDistinction : Reader Unit := do
  word "match"
  g.condition
  group .brace do
    let _ ← innerAttributes
    let _ ← repeated g.arm

/-- An operand that ends with a block, if one comes next. -/
def blockOperand : Reader (Option ExpressionForm) := do
  let ending (block : Reader Unit) : Reader (Option ExpressionForm) := do
    block
    return some .block
  if ← sees (nextWord "if") then ending g.conditional
  else if ← sees (nextWord "while") then ending g.whileLoop
  else if (← sees (nextWord "for")) && !(← sees nextForLifetimes) then ending g.forLoop
  else if ← sees (nextWord "loop") then ending g.loop
  else if ← sees (nextWord "match") then ending g.caseDistinction
  else if ← sees nextTryBlock then ending g.tryBlock
  else if ← sees (nextWord "unsafe") then ending (g.markedBlock "unsafe")
  else if ← sees (nextWord "const") then
    g.constantBlock
    return some .verbatim
  else if ← sees (nextGroup .brace) then ending (do let _ ← g.attributedBlock)
  else return none

/-- An operand that ends with no block of its own. -/
def plainOperand (allowFields : Bool) : Reader ExpressionForm := do
  let reading (form : ExpressionForm) (operand : Reader Unit) : Reader ExpressionForm := do
    operand
    return form
  if ← sees nextLiteral then reading {} literal
  else if ← sees nextAsyncBlock then reading .block g.asyncBlock
  else if ← sees nextClosure then reading {} (g.closure allowFields)
  else if ← sees nextForLifetimes then
    reading .verbatim (do forLifetimes; g.closure allowFields)
  else if ← sees nextRoute then g.routeOperand allowFields
  else if ← sees (nextGroup .parenthesis) then reading {} g.parenthesized
  else if ← sees (nextWord "break") then reading {} (g.breakOperand allowFields)
  else if ← wordIf "continue" then reading {} (do let _ ← lifetimeIf)
  else if ← wordIf "return" then reading {} (g.taken endsOperand allowFields)
  else if ← sees (nextGroup .bracket) then reading {} g.array
  else if ← sees (nextWord "let") then reading {} (g.letOperand allowFields)
  else if ← wordIf "yield" then reading {} (g.taken endsOperand true)
  else if ← sees (nextMarks "..") then
    reading { isRange := true } (g.upwardOperand allowFields)
  else if ← wordIf "_" then return .verbatim
  else if ← sees nextLifetime then reading .block g.labelled
  else failMissing "expression"

/-- A reference to an operand. A raw one is written as it is given. -/
def referenceOperand (allowFields : Bool) : Reader ExpressionForm := do
  marks "&"
  let isRaw ← sees fun tokens =>
    nextWord "raw" tokens && second (nextWordOf ["mut", "const"]) tokens
  if isRaw then word "raw"
  let isMutable ← wordIf "mut"
  if isRaw && !isMutable then word "const"
  let _ ← g.operand allowFields
  return if isRaw then .verbatim else {}

/-- An operand with the operators in front of it and the accesses behind it. -/
def readOperand (allowFields : Bool) : Reader ExpressionForm :=
  verbatimIf (·.isVerbatim) do
    let _ ← attributes
    if ← sees (nextMark '&') then g.referenceOperand allowFields
    else if ← sees (nextOf [nextWord "box", nextMark '*', nextMark '!', nextMark '-']) then
      take 1
      let _ ← g.operand allowFields
      return {}
    else
      match ← g.blockOperand with
      | some form => g.accesses form
      | none => g.accesses (← g.plainOperand allowFields)

/-! ## Operations -/

/-- The second operand of an operation, with all operations on it that bind more tightly.
Assignments are grouped from the right.
-/
def secondOperand (allowFields : Bool) (precedence : Precedence) : Reader Unit := do
  let step := fun (form : ExpressionForm) => do
    let next ← look nextPrecedence
    if next.rank > precedence.rank || (next = .assignment && precedence = .assignment) then
      return some (← g.operations allowFields next form)
    else return none
  let _ ← iterate step (← g.operand allowFields)

/-- The type that an operand is cast to or said to have. -/
def castTarget : Reader Unit := do
  let _ ← g.type false
  match ← look castFault? with
  | some fault => fail fun _ => fault
  | none => return

/-- An operation on a first operand, if one comes next that binds tightly enough. -/
def operation (allowFields : Bool) (least : Precedence) (first : ExpressionForm)
    : Reader (Option ExpressionForm) := do
  let binds (precedence : Precedence) := decide (least.rank ≤ precedence.rank)
  match (← look nextOperator).filter (binds ·.2) with
  | some (operator, precedence) =>
    marks operator
    g.secondOperand allowFields precedence
    return some first.operation
  | none =>
    if binds .assignment && (← sees nextAssignment) then
      marks "="
      g.secondOperand allowFields .assignment
      return some first.operation
    else if binds .range && (← sees (nextMarks "..")) then
      let _ ← rangeDots
      unless ← sees (endsRange allowFields) do g.secondOperand allowFields .range
      return some { isRange := true }
    else if binds .cast && (← sees (nextWord "as")) then
      word "as"
      g.castTarget
      return some {}
    else if binds .cast && (← sees nextSingleColon) then
      marks ":"
      g.castTarget
      return some {}
    else return none

/-- What follows the first operand of an expression, as far as it binds tightly enough. -/
def readOperations (allowFields : Bool) (least : Precedence) (first : ExpressionForm)
    : Reader ExpressionForm :=
  iterate (g.operation allowFields least) first

/-- Any expression. -/
def readExpression (allowFields : Bool) : Reader ExpressionForm := do
  g.operations allowFields .any (← g.operand allowFields)

/-! ## Leading expressions -/

/-- The first operand of a leading expression, and whether it is all of it. -/
def leadingOperand : Reader (ExpressionForm × Bool) := do
  match ← g.blockOperand with
  | some form =>
    if ← sees (nextOf [nextSingleDot, nextMark '?']) then return (← g.accesses form, false)
    else return (form, true)
  | none => return (← g.operand true, false)

/-- An expression at the start of a statement, or as the body of an arm. Attributes of an operand
that is written as it is given are not written.
-/
def readLeading : Reader ExpressionForm := do
  let (_, added) ← recorded attributes
  let ((form, isComplete), record) ← recorded g.leadingOperand
  unless form.isVerbatim do write added.written
  write record.written
  if isComplete then return form else g.operations true .any form

end Grammar

end NestedSelect.Declaration
