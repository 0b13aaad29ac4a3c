import NestedSelect.Declaration.Grammar.Field
/-!
Reading items: functions, types, constants, modules, traits and their implementations. Nothing of
an item is kept, but all of it has to be well formed. An item that is only half a definition, such
as a constant without a value, is written as it is given.
-/

namespace NestedSelect.Declaration

open Reader

/-- The qualifiers in front of a function may be missing. -/
def skipQualifiers (tokens : List Token) : List Token :=
  let skip := fun (mark : String) (tokens : List Token) =>
    if nextWord mark tokens then tokens.drop 1 else tokens
  let rest := skip "unsafe" (skip "async" (skip "const" tokens))
  if nextWord "extern" rest then
    if nextText (rest.drop 1) then rest.drop 2 else rest.drop 1
  else rest

/-- A function comes next, perhaps behind its qualifiers. -/
def nextFunction : Lookahead := fun tokens => nextWord "fn" (skipQualifiers tokens)

/-- The path of a macro comes next. -/
def nextMacroPath : Lookahead :=
  nextOf [nextIdentifier, nextWordOf ["self", "super", "crate"], nextMarks "::"]

/-- What a macro can start with, as messages list it. -/
def macroStarts : List String :=
  ["identifier", named "self", named "super", named "crate", named "::"]

/-- A trait that holds by itself comes next. -/
def nextAutoTrait : Lookahead := fun tokens =>
  nextWord "auto" tokens && second (nextWord "trait") tokens

/-- A macro with its arguments in place of an item. A semicolon has to follow it unless the
arguments are in braces.
-/
def macroItem (hasName : Bool) : Reader Unit := do
  let _ ← plainPath
  marks "!"
  if hasName then
    let _ ← optionally nextIdentifier (take 1)
  if (← anyGroup) ≠ .brace then marks ";"

/-- Items in braces, which may start with attributes of what the items belong to. -/
def itemBlock (item : Reader Unit) : Reader Unit :=
  group .brace do
    let _ ← innerAttributes
    let _ ← repeated item

/-- Where an alias of a type has its where clause. -/
inductive ClausePlace where
  | beforeType
  | behindType
  | either
deriving DecidableEq, Repr

/-- An alias of a type: its bounds and its type, both of which may be missing. -/
structure AliasForm where
  hasBounds : Bool
  hasType : Bool
deriving DecidableEq, Repr

namespace Grammar

variable (g : Grammar)

/-! ## Parts of items -/

/-- The value of a constant behind its equals sign, and the semicolon. -/
def assignedValue : Reader Unit := do
  marks "="
  let _ ← g.expression true
  marks ";"

/-- The bounds behind a colon up to where they end. A colon without bounds is not written. -/
def colonBounds (ends : Lookahead) : Reader Bool := do
  if ← marksIf ":" then
    let bounds ← joined ends (g.bound ())
    if bounds.isEmpty then retract 1
    return true
  else return false

/-- An alias of a type with its semicolon. -/
def aliasItem (place : ClausePlace) : Reader AliasForm := do
  g.heading "type"
  let hasBounds ← g.colonBounds (nextOf [nextWord "where", nextMark '=', nextMark ';'])
  let hasClause ← if place = .behindType then pure false else g.whereClause
  let hasType ← marksIf "="
  if hasType then
    let _ ← g.type true
  unless place = .beforeType || hasClause do
    let _ ← g.whereClause
  marks ";"
  return ⟨hasBounds, hasType⟩

/-- A function with its body. Without one a semicolon has to follow. It is told whether there is a
body.
-/
def functionItem : Reader Bool := do
  let _ ← g.signature
  if ← marksIf ";" then return false
  else
    let _ ← g.attributedBlock
    return true

/-! ## Declarations of foreign items -/

/-- An item that is defined elsewhere. -/
def foreignItem : Reader Unit := do
  let _ ← verbatimIf id do
    let _ ← attributes
    let hasVisibility ← visibility
    if ← sees nextFunction then
      let _ ← g.signature
      if ← sees (nextGroup .brace) then
        let _ ← g.attributedBlock
        return true
      else
        marks ";"
        return false
    else if ← wordIf "static" then
      let _ ← wordIf "mut"
      let _ ← identifier
      marks ":"
      let _ ← g.type true
      if ← sees (nextMark '=') then
        g.assignedValue
        return true
      else
        marks ";"
        return false
    else if ← sees (nextWord "type") then
      let form ← g.aliasItem .either
      return form.hasBounds || form.hasType
    else if !hasVisibility && (← sees nextMacroPath) then
      macroItem false
      return false
    else
      failMissingOf ([named "fn", named "static", named "type"]
        ++ if hasVisibility then [] else macroStarts)

/-- Items that are defined elsewhere. -/
def foreignItems : Reader Unit := do
  convention
  itemBlock g.foreignItem

/-! ## Traits -/

/-- A constant of a trait behind its qualifiers. -/
def traitConstant : Reader Unit := do
  word "const"
  nameOrUnderscore
  marks ":"
  let _ ← g.type true
  if ← marksIf "=" then
    let _ ← g.expression true
  marks ";"

/-- The end of a function of a trait: a semicolon, or a body of which only attributes are kept. -/
def functionEnd : Reader (List Attribute) := do
  if ← sees (nextGroup .brace) then g.attributedBlock
  else if ← sees (nextMark ';') then
    marks ";"
    return []
  else failMissingOf ["curly braces", named ";"]

/-- An item of a trait. -/
def traitItem : Reader Unit := do
  let _ ← verbatimIf id do
    let _ ← attributes
    let hasVisibility ← visibility
    let isDefault ← wordIf "default"
    if ← sees nextFunction then
      let _ ← g.signature
      let _ ← g.functionEnd
    else if ← sees (nextWord "const") then
      if ← sees (second (nextOf [nextIdentifier, nextWord "_"])) then g.traitConstant
      else if ← sees (second (nextWordOf ["async", "unsafe", "extern", "fn"])) then
        let _ ← g.signature
      else
        word "const"
        failMissingOf ["identifier", named "_", named "async", named "unsafe", named "extern",
          named "fn"]
    else if ← sees (nextWord "type") then
      let _ ← g.aliasItem .behindType
    else if ← sees nextMacroPath then macroItem false
    else failMissingOf ([named "fn", named "const", named "type"] ++ macroStarts)
    return hasVisibility || isDefault

/-- A trait behind its name and parameters. -/
def traitBody : Reader Unit := do
  let _ ← g.colonBounds (nextOf [nextWord "where", nextGroup .brace])
  let _ ← g.whereClause
  itemBlock g.traitItem

/-- A trait, or another name for bounds. -/
def traitOrAlias : Reader Unit := do
  g.heading "trait"
  if ← sees (nextOf [nextGroup .brace, nextMark ':', nextWord "where"]) then g.traitBody
  else if ← marksIf "=" then
    let _ ← joined (nextOf [nextWord "where", nextMark ';']) (g.bound ())
    let _ ← g.whereClause
    marks ";"
  else failMissingOf ["curly braces", named ":", named "where", named "="]

/-- A trait, which may be unsafe to implement or hold by itself. -/
def markedTrait : Reader Unit := do
  let _ ← wordIf "unsafe"
  let _ ← wordIf "auto"
  g.heading "trait"
  g.traitBody

/-! ## Implementations -/

/-- An item of an implementation. -/
def implementationItem : Reader Unit := do
  let _ ← verbatimIf id do
    let _ ← attributes
    let hasVisibility ← visibility
    let isDefault ← sees fun tokens =>
      nextWord "default" tokens && !second (nextMark '!') tokens
    if isDefault then word "default"
    if ← sees nextFunction then return !(← g.functionItem)
    else if ← wordIf "const" then
      nameOrUnderscore
      marks ":"
      let _ ← g.type true
      if ← sees (nextMark '=') then
        g.assignedValue
        return false
      else
        marks ";"
        return true
    else if ← sees (nextWord "type") then
      let form ← g.aliasItem .behindType
      return form.hasBounds || !form.hasType
    else if !hasVisibility && !isDefault && (← sees nextMacroPath) then
      macroItem false
      return false
    else
      let isAmbiguous ← sees (nextWord "default")
      failMissingOf ((if isDefault || isAmbiguous then [] else [named "default"])
        ++ [named "fn", named "const", named "type"]
        ++ if hasVisibility || isDefault then [] else macroStarts)

/-- An implementation has generic parameters of its own. -/
def nextImplementationGenerics : Lookahead := fun tokens =>
  let endsName := nextOf [nextMark ':', nextMark ',', nextMark '>', nextMark '=']
  nextMark '<' tokens
    && (second (nextOf [nextMark '>', nextMark '#', nextWord "const"]) tokens
      || (second (nextOf [nextIdentifier, nextLifetime]) tokens && third endsName tokens))

/-- An implementation. It is told whether it is written as it is given. -/
def implementation : Reader Bool := do
  let _ ← wordIf "default"
  let _ ← wordIf "unsafe"
  word "impl"
  if ← sees nextImplementationGenerics then g.generics
  let isConstant ← sees fun tokens =>
    nextWord "const" tokens || (nextMark '?' tokens && second (nextWord "const") tokens)
  if isConstant then
    let _ ← marksIf "?"
    word "const"
  let isNegative ← sees fun tokens => nextMark '!' tokens && !second (nextGroup .brace) tokens
  let (first, _) ← verbatimIf (·.2) do
    if isNegative then marks "!"
    let first ← g.type true
    return (first, isNegative && !(← sees (nextWord "for")))
  let isForTrait ← wordIf "for"
  if isForTrait then
    let _ ← g.type true
  let _ ← g.whereClause
  itemBlock g.implementationItem
  let isPath :=
    match first with
    | .named .. => true
    | _ => false
  return isConstant || (isForTrait && !isPath)

/-! ## Other items -/

/-- A crate that is used. -/
def crateItem : Reader Unit := do
  word "extern"
  word "crate"
  if ← sees (nextWord "self") then word "self"
  else
    let _ ← identifier
  if ← wordIf "as" then
    unless ← wordIf "_" do
      let _ ← identifier
  marks ";"

/-- A static variable. It is told whether its type or its value is missing. -/
def staticItem : Reader Bool := do
  word "static"
  let _ ← wordIf "mut"
  let _ ← identifier
  if ← sees (nextMark '=') then
    g.assignedValue
    return true
  else
    marks ":"
    let _ ← g.type true
    if ← marksIf ";" then return true
    else
      g.assignedValue
      return false

/-- A constant. It is told whether its value is missing. -/
def constantItem : Reader Bool := do
  word "const"
  nameOrUnderscore
  marks ":"
  let _ ← g.type true
  if ← marksIf ";" then return true
  else
    g.assignedValue
    return false

/-- A module. -/
def moduleItem : Reader Unit := do
  word "mod"
  let _ ← identifier
  if ← sees (nextMark ';') then marks ";"
  else if ← sees (nextGroup .brace) then itemBlock (g.item ())
  else failMissingOf [named ";", "curly braces"]

/-- A type that is known by its bounds only. -/
def existentialItem : Reader Unit := do
  word "existential"
  g.heading "type"
  let _ ← g.whereClause
  marks ":"
  let step := fun (isFirst : Bool) => do
    if ← sees (nextMark ';') then return none
    unless isFirst do marks "+"
    let _ ← g.bound ()
    return some false
  let _ ← iterate step true
  marks ";"

/-- A definition of a macro. -/
def macroDefinition : Reader Unit := do
  word "macro"
  let _ ← identifier
  let hasArguments ← sees (nextGroup .parenthesis)
  if hasArguments then
    let _ ← anyGroup
  if ← sees (nextGroup .brace) then
    let _ ← anyGroup
  else failMissingOf ((if hasArguments then [] else ["parentheses"]) ++ ["curly braces"])

/-- What an item can start with behind its visibility, as messages list it. A word with a meaning
only in front of certain others is not listed where it comes next.
-/
def itemStarts (hasVisibility : Bool) (tokens : List Token) : List String :=
  let words := ["fn", "extern", "use", "static", "const", "unsafe", "mod", "type", "existential",
    "struct", "enum", "union", "trait", "auto", "impl", "default", "macro"]
  (words.filter (!nextWord · tokens)).map named ++ if hasVisibility then [] else macroStarts

/-- An unsafe item. It is told whether it is written as it is given. -/
def unsafeItem (hasVisibility : Bool) : Reader Bool := do
  if ← sees (second (nextOf [nextWord "trait", nextAutoTrait])) then
    g.markedTrait
    return false
  else if ← sees (second (nextWord "impl")) then return (← g.implementation) || hasVisibility
  else
    word "unsafe"
    if ← sees (nextWord "extern") then
      g.foreignItems
      return true
    else if ← sees (nextWord "mod") then
      g.moduleItem
      return true
    else
      let isAuto ← sees (nextWord "auto")
      failMissingOf ([named "trait"] ++ (if isAuto then [] else [named "auto"])
        ++ [named "impl", named "extern", named "mod"])

/-- An item that starts with `extern`. Items that are defined elsewhere have no visibility. -/
def externItem (hasVisibility : Bool) : Reader (Except Fault Unit) := do
  let convention := fun (tokens : List Token) => if nextText tokens then tokens.drop 1 else tokens
  if ← sees (second (nextWord "crate")) then
    crateItem
    return .ok ()
  else if ← sees fun tokens => nextGroup .brace (convention (tokens.drop 1)) then
    if hasVisibility then return .error (.expected (named "extern"))
    else
      g.foreignItems
      return .ok ()
  else
    word "extern"
    if ← sees nextText then
      take 1
      failMissing "curly braces"
    else failMissingOf [named "crate", "curly braces", "string literal"]

/-- An item behind its attributes and its visibility. It is told whether it is written as it is
given.
-/
def itemBehind (hasVisibility : Bool) : Reader (Except Fault Bool) := do
  let kept (item : Reader Unit) : Reader (Except Fault Bool) := do
    item
    return .ok false
  let told (item : Reader Bool) : Reader (Except Fault Bool) := do
    return .ok (← item)
  if ← sees nextFunction then return .ok !(← g.functionItem)
  else if ← sees (nextWord "extern") then
    let found ← g.externItem hasVisibility
    return found.map fun _ => false
  else if ← wordIf "use" then
    kept do
      let _ ← marksIf "::"
      imports
      marks ";"
  else if ← sees (nextWord "static") then told g.staticItem
  else if ← sees (nextWord "const") then told g.constantItem
  else if ← sees (nextWord "unsafe") then told (g.unsafeItem hasVisibility)
  else if ← sees (nextWord "mod") then kept g.moduleItem
  else if ← sees (nextWord "type") then
    let form ← g.aliasItem .beforeType
    return .ok (form.hasBounds || !form.hasType)
  else if ← sees (nextWord "existential") then kept g.existentialItem
  else if ← sees (nextWord "struct") then kept g.structureItem
  else if ← sees (nextWord "enum") then kept g.enumerationItem
  else if ← sees (fun tokens => nextWord "union" tokens && second nextIdentifier tokens) then
    kept g.unionItem
  else if ← sees (nextWord "trait") then kept g.traitOrAlias
  else if ← sees nextAutoTrait then kept g.markedTrait
  else if (← sees (nextWord "impl"))
      || ((← sees (nextWord "default")) && !(← sees (second (nextMark '!')))) then
    return .ok ((← g.implementation) || hasVisibility)
  else if ← sees (nextWord "macro") then kept macroDefinition
  else if !hasVisibility && (← sees nextMacroPath) then kept (macroItem true)
  else failMissingOf (← look (itemStarts hasVisibility))

/-- An item without its attributes. It is told whether it is written as it is given. -/
def bareItem : Reader Bool :=
  whole do g.itemBehind (← visibility)

/-- An item with its attributes. -/
def readItem : Reader Unit := do
  let _ ← verbatimIf id do
    let _ ← attributes
    g.bareItem

end Grammar

end NestedSelect.Declaration
