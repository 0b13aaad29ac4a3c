import NestedSelect.Declaration.ForeignKey
/-!
Members of a declaration and what they stand for. The attributes of a member say what it is, and
its return type has to agree with that: an array where any number of rows belong to a row, and a
plain type everywhere else.
-/

namespace NestedSelect.Declaration

open Reader

/-- A member as it is written. -/
structure MemberSyntax where
  /-- Where the member starts, attributes included. -/
  start : Position
  attributes : List Attribute
  name : String
  /-- Where the first argument starts, if there is one. -/
  firstArgument : Option Position
  /-- Where dots stand behind all arguments, if they do. They are not an argument themselves. -/
  dots : Option Position
  returns : Option TypeShape
deriving DecidableEq, Repr

/-- A member: a signature, and behind it a semicolon or a body. Of the body attributes are kept. -/
def memberSyntax : Reader MemberSyntax :=
  withGrammar fun g => do
    let start ← look place
    let outer ← attributes
    let signature ← g.signature
    let inside ← g.functionEnd
    return ⟨start, outer ++ inside, signature.name, signature.firstArgument, signature.dots,
      signature.returns⟩

/-- What the attributes of a member say. Of several attributes of one name the last one counts. -/
structure Markings where
  primaryKey : Option Position := none
  /-- The name of the column, and where it is given. -/
  column : Option (String × Position) := none
  jsonKey : Option String := none
  foreign : Option ForeignKey := none
  embed : Option Position := none
deriving DecidableEq, Repr

/-- What a member stands for. -/
inductive MemberKind where
  | column (name : String) (isPrimaryKey : Bool)
  | foreign (key : ForeignKey)
  | embed (target : Path)
deriving DecidableEq, Repr

/-- A member that is as it should be. -/
structure Member where
  start : Position
  name : String
  jsonKey : Option String
  kind : MemberKind
deriving DecidableEq, Repr

/-- A flag has nothing behind its name. -/
def flag (tokens : List Token) : Except Diagnostic Unit :=
  match tokens with
  | [] => .ok ()
  | token :: _ => .error ⟨.argumentsGiven, token.position⟩

/-- A text behind an equals sign, and where it is. -/
def textArgument : Reader (String × Position) := do
  marks "="
  let position ← look place
  return (← stringLiteral, position)

/-- Take one more attribute into account. Documentation says nothing about a member. -/
def Markings.add (markings : Markings) (added : Attribute) : Except Diagnostic Markings :=
  match added.name with
  | some "doc" => .ok markings
  | some "primary_key" => do
    flag added.tokens
    return { markings with primaryKey := some added.position }
  | some "embed" => do
    flag added.tokens
    return { markings with embed := some added.position }
  | some "column" => do
    let column ← readAll textArgument added.tokens
    return { markings with column := some column }
  | some "json" => do
    let (key, _) ← readAll textArgument added.tokens
    return { markings with jsonKey := some key }
  | some "foreign" => do
    let key ← foreignKey added.tokens
    return { markings with foreign := some key }
  | _ => .error ⟨.unrecognizedAttribute, added.position⟩

/-- What some attributes say together, up to the first one that is wrong. -/
def Markings.ofAttributes (attributes : List Attribute) : Except Diagnostic Markings :=
  attributes.foldlM Markings.add {}

/-- A return type: the path of one row, or that of any number of rows. -/
inductive Quantified where
  | unit (path : Path)
  | slice (path : Path)
deriving DecidableEq, Repr

/-- A type that is a path. -/
def TypeShape.path? : TypeShape → Except Diagnostic Path
  | .named path _ => .ok path
  | shape => .error ⟨.notAPath, shape.position⟩

/-- The return type of a member that starts at a position. -/
def quantified (start : Position) : Option TypeShape → Except Diagnostic Quantified
  | none => .error ⟨.returnTypeMissing, start⟩
  | some (.slice _ element) => element.path?.map .slice
  | some shape => shape.path?.map .unit

/-- What a member with some markings and a return type stands for. -/
def Markings.kind (markings : Markings) (name : String) (returns : Quantified)
    : Except Diagnostic MemberKind :=
  match markings.foreign, markings.embed, returns with
  | some _, some position, _ => .error ⟨.embedAndForeign, position⟩
  | none, some _, .unit path => .ok (.embed path)
  | none, some _, .slice path => .error ⟨.embeddedSlice, path.position⟩
  | some key, none, .unit path =>
    if key.referencesSelf then .error ⟨.sliceMissing, path.position⟩ else .ok (.foreign key)
  | some key, none, .slice path =>
    if key.referencesSelf then .ok (.foreign key) else .error ⟨.sliceGiven, path.position⟩
  | none, none, .slice path => .error ⟨.columnSlice, path.position⟩
  | none, none, .unit _ =>
    .ok (.column ((markings.column.map (·.1)).getD name) markings.primaryKey.isSome)

def MemberKind.isColumn : MemberKind → Bool
  | .column .. => true
  | _ => false

/-- Only columns are primary keys or renamed. -/
def Markings.checkKind (markings : Markings) (kind : MemberKind) : Except Diagnostic Unit :=
  if kind.isColumn then .ok ()
  else
    match markings.primaryKey, markings.column with
    | some position, _ => .error ⟨.keyNotAColumn, position⟩
    | none, some (_, position) => .error ⟨.renamedNotAColumn, position⟩
    | none, none => .ok ()

/-- The member that is written, or the first thing that is wrong with it. -/
def Member.ofSyntax (written : MemberSyntax) : Except Diagnostic Member := do
  let markings ← Markings.ofAttributes written.attributes
  match written.firstArgument with
  | some position => throw ⟨.argumentsGiven, position⟩
  | none =>
    let returns ← quantified written.start written.returns
    let kind ← markings.kind written.name returns
    markings.checkKind kind
    return ⟨written.start, written.name, markings.jsonKey, kind⟩

/-- The column of a member that is a primary key. -/
def Member.primaryKey? (member : Member) : Option String :=
  match member.kind with
  | .column name true => some name
  | _ => none

end NestedSelect.Declaration
