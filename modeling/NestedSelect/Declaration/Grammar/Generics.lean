import NestedSelect.Declaration.Grammar.Type
/-!
Generic parameters and where clauses. Lifetimes are written in front of all other parameters, and
an empty list or clause is not written.
-/

namespace NestedSelect.Declaration

open Reader

/-- A where clause ends here, and so do the bounds of a type in it. -/
def endsClause : Lookahead :=
  nextOf [atEnd, nextGroup .brace, nextMark ',', nextMark ';', nextSingleColon, nextMark '=']

/-- The bounds of a lifetime in a where clause end here. -/
def endsLifetimeClause : Lookahead := nextOf [endsClause, nextMark ':']

/-- The bounds of a type parameter end here. -/
def endsParameter : Lookahead := nextOf [nextMark ',', nextMark '>', nextMark '=']

namespace Grammar

variable (g : Grammar)

/-- A bound of a type parameter. It is told whether the bound holds only for constants. -/
def parameterBound : Reader Bool := do
  let isConditional ← sees fun tokens =>
    nextMark '~' tokens && second (nextWord "const") tokens
  if isConditional then take 2
  let _ ← g.bound ()
  return isConditional

/-- The bounds of a type parameter and the type that it stands for by default. -/
def parameterBounds (hasColon : Bool) : Reader (List Bool) := do
  let bounds ← if hasColon then chained "+" endsParameter g.parameterBound else pure []
  if ← marksIf "=" then
    let _ ← g.type true
  return bounds

/-- A type parameter. With a bound that holds only for constants it is written as it is given. A
colon without bounds behind it is not written.
-/
def typeParameter : Reader Unit := do
  let _ ← identifier
  let hasColon ← marksIf ":"
  let (bounds, record) ← recorded (verbatimIf (·.any id) (g.parameterBounds hasColon))
  if hasColon && bounds.isEmpty then retract 1
  write record.written

/-- A parameter that stands for a constant. -/
def constantParameter : Reader Unit := do
  word "const"
  let _ ← identifier
  marks ":"
  let _ ← g.type true
  if ← marksIf "=" then g.defaultConstant

/-- One generic parameter. It is told whether it is a lifetime. -/
def genericParameter : Reader Bool := do
  let _ ← attributes
  if ← sees nextLifetime then
    lifetimeParameter
    return true
  else if ← sees nextIdentifier then
    g.typeParameter
    return false
  else if ← sees (nextWord "const") then
    g.constantParameter
    return false
  else if ← wordIf "_" then return false
  else failMissingOf ["lifetime", "identifier", named "const"]

/-- Generic parameters in angle brackets. -/
def genericParameters : Reader (List (Piece Bool)) := do
  marks "<"
  let parameters ← pieces (nextMark '>') g.genericParameter
  marks ">"
  return parameters

/-- Generic parameters, which may be missing. -/
def generics : Reader Unit := do
  if ← sees (nextMark '<') then
    let (parameters, record) ← recorded g.genericParameters
    unless parameters.isEmpty do
      write (record.written.take 1)
      writeLifetimesFirst parameters
      write (record.written.drop 1)

/-- One predicate of a where clause. -/
def predicate : Reader Unit := do
  if (← sees nextLifetime) && (← sees (second (nextMark ':'))) then
    lifetime
    marks ":"
    let _ ← chained "+" endsLifetimeClause lifetime
  else
    let _ ← optionally (nextWord "for") forLifetimes
    let _ ← g.type true
    marks ":"
    let _ ← chained "+" endsClause (g.bound ())

/-- A where clause, which may be missing. It is told whether it is there. -/
def whereClause : Reader Bool := do
  if ← sees (nextWord "where") then
    let clause : Reader (List Unit) := do
      word "where"
      chained "," endsClause g.predicate
    let (predicates, record) ← recorded clause
    unless predicates.isEmpty do write record.written
    return true
  else return false

end Grammar

end NestedSelect.Declaration
