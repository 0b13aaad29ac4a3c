import NestedSelect.Declaration.Grammar.Route
/-!
Binary operators, and what else ties an expression to what follows it.
-/

namespace NestedSelect.Declaration

open Reader

/-- The operators of two operands. Of two of which one is the start of the other, the longer one
comes first.
-/
def operators : List (String × Precedence) :=
  [("+=", .assignment), ("-=", .assignment), ("*=", .assignment), ("/=", .assignment),
    ("%=", .assignment), ("^=", .assignment), ("&=", .assignment), ("|=", .assignment),
    ("<<=", .assignment), (">>=", .assignment), ("&&", .conjunction), ("||", .disjunction),
    ("<<", .shift), (">>", .shift), ("==", .comparison), ("<=", .comparison),
    ("!=", .comparison), (">=", .comparison), ("+", .sum), ("-", .sum), ("*", .product),
    ("/", .product), ("%", .product), ("^", .bitXor), ("&", .bitAnd), ("|", .bitOr),
    ("<", .comparison), (">", .comparison)]

/-- The operator that comes next. -/
def nextOperator (tokens : List Token) : Option (String × Precedence) :=
  operators.find? fun operator => nextMarks operator.1 tokens

/-- A single equals sign comes next. -/
def nextAssignment : Lookahead := fun tokens =>
  nextMark '=' tokens && !nextMarks "==" tokens && !nextMarks "=>" tokens

/-- How tightly what comes next is tied to what is before it. -/
def nextPrecedence (tokens : List Token) : Precedence :=
  match nextOperator tokens with
  | some (_, precedence) => precedence
  | none =>
    if nextMark '=' tokens && !nextMarks "=>" tokens then .assignment
    else if nextMarks ".." tokens then .range
    else if nextWord "as" tokens || nextSingleColon tokens then .cast
    else .any

/-- The dots of a range. Three of them mean the same as two with an equals sign, and are written
like these. It is told whether the upper bound belongs to the range.
-/
def rangeDots : Reader Bool := do
  if ← marksIf "..=" then return true
  else if ← sees (nextMarks "...") then
    unwritten (marks "...")
    write
      [.synthetic (.mark '.' true) ".", .synthetic (.mark '.' true) ".",
        .synthetic (.mark '=' false) "="]
    return true
  else if ← marksIf ".." then return false
  else failMissingOf [named "..=", named "...", named ".."]

/-- A dot comes next that is no part of a range. -/
def nextSingleDot : Lookahead := fun tokens => nextMark '.' tokens && !nextMarks ".." tokens

/-- A number that can name a field. -/
def fieldNumber? (spelling : List Char) : Except Fault Nat :=
  match integer? spelling with
  | none => .error (.expected "integer literal")
  | some (number, suffix) =>
    if !suffix.isEmpty then .error (.expected "unsuffixed integer")
    else if number < 0x100000000 then .ok number
    else .error .numberTooLarge

/-- A number that names a field is written in decimal digits. -/
def writeNumber (number : Nat) : Reader Unit :=
  write [.synthetic .number (toString number)]

/-- A field that is named by a number. -/
def numberedField : Reader Unit := do
  let number : Reader (Except Fault Nat) := do
    let isNegative ← marksIf "-"
    let spelling := (← expect "integer literal" (·.kind = .number)).spelling
    return (fieldNumber? spelling.toList).bind fun number =>
      if isNegative then .error .invalidDigit else .ok number
  writeNumber (← unwritten (whole number))

/-- The name of a field, or the number of one. It is told whether it is a number. -/
def member : Reader Bool := do
  if ← sees nextIdentifier then
    let _ ← identifier
    return false
  else if ← sees (nextNumber true) then
    numberedField
    return true
  else failMissing "identifier or integer"

/-- The parts of a text between its dots. -/
def dottedParts : List Char → List (List Char)
  | [] => [[]]
  | c :: rest =>
    if c = '.' then [] :: dottedParts rest
    else
      match dottedParts rest with
      | [] => [[c]]
      | part :: others => (c :: part) :: others

/-- The fields that a number with a fraction names one after the other. With nothing behind its
dot it names one field, and the name of another one follows.
-/
def fieldNumbers? (spelling : List Char) : Except Fault (List Nat × Bool) := do
  let parts := dottedParts spelling
  let isOpen := parts.getLast?.any List.isEmpty
  let numbers ← (if isOpen then parts.dropLast else parts).mapM fieldNumber?
  return (numbers, isOpen)

/-- Fields that are named by a number with a fraction, such as `0.1`. It is told whether the name
of another field has to follow.
-/
def numberedFields : Reader Bool := do
  let fields : Reader (Except Fault (List Nat × Bool)) := do
    let isNegative ← marksIf "-"
    let spelling := (← expect "floating point literal" (·.kind = .number)).spelling
    return if isNegative then .error .invalidDigit else fieldNumbers? spelling.toList
  let (numbers, isOpen) ← unwritten (whole fields)
  let spelling := ".".intercalate (numbers.map toString)
  write [.synthetic .number (if isOpen then spelling ++ "." else spelling)]
  return isOpen

end NestedSelect.Declaration
