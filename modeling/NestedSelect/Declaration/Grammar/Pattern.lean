import NestedSelect.Declaration.Grammar.Operator
/-!
Reading patterns.
-/

namespace NestedSelect.Declaration

open Reader

/-- What a pattern can start with, as messages list it. Two dots are listed unless they come next
as part of three.
-/
def patternStarts (listsDots : Bool) : List String :=
  [named "::", named "<", named "_", "literal", named "const", named "ref", named "mut",
    named "&", "parentheses", "square brackets"]
  ++ (if listsDots then [named ".."] else []) ++ [named "const"]

/-- What a bound of a range pattern can start with, as messages list it. -/
def rangeBoundStarts : List String :=
  ["literal", "identifier", named "::", named "<", named "self", named "Self", named "super",
    named "crate", named "const"]

/-- A path in a pattern or an expression comes next. -/
def nextRoute : Lookahead :=
  nextOf [nextIdentifier, nextMarks "::", nextMark '<',
    nextWordOf ["self", "Self", "super", "crate"]]

/-- The dots of a range come next, and behind them something that belongs to the range. -/
def nextOpenRange : Lookahead := fun tokens =>
  let dots := fun (tokens : List Token) =>
    if nextMarks "..=" tokens || nextMarks "..." tokens then 3 else 2
  nextMarks ".." tokens
    && !nextOf [atEnd, nextMark ','] (tokens.drop (dots tokens))

/-- A pattern that starts with a path comes next. -/
def nextRoutePattern : Lookahead := fun tokens =>
  let behindName :=
    nextOf [nextMarks "::", nextMark '!', nextGroup .brace, nextGroup .parenthesis, nextOpenRange]
  (nextIdentifier tokens && behindName (tokens.drop 1))
    || (nextWord "self" tokens && nextMarks "::" (tokens.drop 1))
    || nextMarks "::" tokens || nextMark '<' tokens || nextWordOf ["Self", "super", "crate"] tokens

/-- A pattern can be followed by another one behind a bar. -/
def nextAlternative : Lookahead := fun tokens =>
  nextMark '|' tokens && !nextMarks "||" tokens && !nextMarks "|=" tokens

/-- A range pattern has no upper bound if this comes next. -/
def endsRangePattern : Lookahead :=
  nextOf [atEnd, nextMark '|', nextMark '=', nextSingleColon, nextMark ',', nextMark ';',
    nextWord "if"]

namespace Grammar

variable (g : Grammar)

/-- A block that is evaluated as a constant. It is written as it is given. -/
def constantBlock : Reader Unit :=
  verbatim do
    word "const"
    let _ ← g.attributedBlock

/-- A bound of a range pattern, or a pattern that is a literal. -/
def rangeBound : Reader Unit := do
  let _ ← marksIf "-"
  if ← sees nextLiteral then literal
  else if ← sees nextRoute then
    let _ ← g.route true
  else if ← sees (nextWord "const") then g.constantBlock
  else failMissingOf rangeBoundStarts

/-- The upper bound of a range pattern, if there is one. -/
def upperBound : Reader Bool := do
  if ← sees endsRangePattern then return false
  else
    g.rangeBound
    return true

/-- A range behind its lower bound. It is told whether it has no upper bound. -/
def rangeBehind : Reader Bool := do
  let _ ← rangeDots
  return !(← g.upperBound)

/-- A range without a lower bound. It is written as it is given. -/
def upwardRange : Reader Unit :=
  verbatim do
    let isInclusive ← rangeDots
    let isBounded ← g.upperBound
    if isInclusive && !isBounded then failMissing "range upper bound"

/-- Patterns with bars between them. -/
def alternatives : Reader Unit := do
  g.pattern ()
  let step := fun (_ : Unit) => do
    if ← sees nextAlternative then
      marks "|"
      return some (← g.pattern ())
    else return none
  iterate step ()

/-- Patterns with bars between them and perhaps in front of the first one. -/
def alternativesWithBar : Reader Unit := do
  let _ ← marksIf "|"
  g.alternatives

/-- The pattern of a field behind its name, which is not written where no colon follows it. -/
def fieldBehind (name : List Token) : Reader Unit := do
  if ← sees (nextMark ':') then
    write name
    marks ":"
  g.alternativesWithBar

/-- The pattern of a field: a name that is bound to the field, or a pattern for the field with a
name or a number. In front of a number no modifier is written.
-/
def fieldPattern : Reader Unit := do
  let modifiers : Reader Bool := do
    let isBoxed ← wordIf "box"
    let isReference ← wordIf "ref"
    let isMutable ← wordIf "mut"
    return isBoxed || isReference || isMutable
  let (isModified, modifying) ← recorded modifiers
  let (isNumber, name) ← recorded member
  if isNumber || (!isModified && (← sees (nextMark ':'))) then g.fieldBehind name.written
  else write (modifying.written ++ name.written)

/-- Patterns of fields up to the end of their group. Two dots stand for all other fields, and
nothing is read behind them.
-/
def fieldPatterns : Reader Unit := do
  let step := fun (isComplete : Bool) => do
    if isComplete || (← sees atEnd) then return none
    let _ ← attributes
    if ← marksIf ".." then return some true
    g.fieldPattern
    unless ← sees atEnd do marks ","
    return some false
  let _ ← iterate step false

/-- Patterns with commas between them, up to the end of their group. -/
def patterns : Reader Unit := do
  let _ ← listed g.alternativesWithBar

/-- A pattern that starts with a path. It is told whether it is written as it is given. -/
def routePattern : Reader Bool := do
  let route ← g.route true
  if !route.isQualified && route.isPlain && (← sees nextMacroMark) then
    marks "!"
    let _ ← anyGroup
    return false
  else if ← sees (nextGroup .brace) then
    group .brace g.fieldPatterns
    return route.isQualified
  else if ← sees (nextGroup .parenthesis) then
    group .parenthesis g.patterns
    return route.isQualified
  else if ← sees (nextMarks "..") then g.rangeBehind
  else return false

/-- A literal, or a range that starts with one. It is told whether it is written as it is given. -/
def literalPattern : Reader Bool := do
  g.rangeBound
  if ← sees (nextMarks "..") then g.rangeBehind else return false

/-- A pattern that binds a name. -/
def namePattern : Reader Unit := do
  let _ ← wordIf "ref"
  let _ ← wordIf "mut"
  let _ ← anyWord
  if ← marksIf "@" then g.pattern ()

/-- A pattern for the target of a reference. -/
def referencePattern : Reader Unit := do
  marks "&"
  let _ ← wordIf "mut"
  g.pattern ()

/-- A single pattern. -/
def readPattern : Reader Unit := do
  if ← sees nextRoutePattern then
    let _ ← verbatimIf id g.routePattern
  else if ← sees (nextWord "_") then word "_"
  else if ← wordIf "box" then g.pattern ()
  else if ← sees (nextOf [nextMark '-', nextLiteral, nextWord "const"]) then
    let _ ← verbatimIf id g.literalPattern
  else if ← sees (nextOf [nextIdentifier, nextWordOf ["ref", "mut", "self"]]) then g.namePattern
  else if ← sees (nextMark '&') then g.referencePattern
  else if ← sees (nextGroup .parenthesis) then group .parenthesis g.patterns
  else if ← sees (nextGroup .bracket) then group .bracket g.patterns
  else if ← sees (nextMarks "...") then failMissingOf (patternStarts false)
  else if ← sees (nextMarks "..") then g.upwardRange
  else failMissingOf (patternStarts true)

end Grammar

end NestedSelect.Declaration
