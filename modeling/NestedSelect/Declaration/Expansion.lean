import NestedSelect.Declaration.Lexer
import NestedSelect.Declaration.Member
import NestedSelect.Schema.Basic
/-!
Expansion of a declaration into the calls that describe its table. A declaration is the optional
name of the table and a block of members for a type. A faulty member becomes a fault among the
calls; a text that is no declaration at all has no calls.
-/

namespace NestedSelect.Declaration

open Reader

/-- One step in the description of a table. -/
inductive Call where
  /-- Start with a type that has no members. -/
  | new (typeName : String)
  | tableName (name : String)
  | primaryKey (column : String)
  | field (column jsonKey : String)
  /-- A relation, under its own JSON key if it has one. -/
  | relation (kind : RelationKind) (name foreignKey : String) (target : Path)
    (jsonKey : Option String)
  | embed (name : String) (target : Path) (jsonKey : Option String)
  /-- There is something wrong here. -/
  | fault (diagnostic : Diagnostic)
deriving DecidableEq, Repr

/-- A block of members, before anything is asked of them. -/
structure Block where
  type : Path
  members : List MemberSyntax
deriving Repr

/-- A whole block: a type, perhaps behind the name of a trait, and its members in braces. -/
def block : Reader Block := do
  let _ ← attributes
  word "impl"
  let first ← withGrammar Grammar.path
  let type ← if ← wordIf "for" then withGrammar Grammar.path else pure first
  return ⟨type, ← group .brace (repeated memberSyntax)⟩

/-- The call for a member. -/
def Member.call (member : Member) : Call :=
  match member.kind with
  | .column name _ => .field name (member.jsonKey.getD member.name)
  | .foreign key =>
    .relation (if key.referencesSelf then .many else .one) member.name key.column key.other
      member.jsonKey
  | .embed target => .embed member.name target member.jsonKey

/-- The call for a member, be it faulty or not. -/
def memberCall : Except Diagnostic Member → Call
  | .ok member => member.call
  | .error diagnostic => .fault diagnostic

/-- The call for the primary key, if any member is one. A second one is a fault. -/
def primaryKeyCalls (members : List Member) : List Call :=
  match members.filterMap fun member => member.primaryKey?.map (member, ·) with
  | [] => []
  | [(_, column)] => [.primaryKey column]
  | _ :: (second, _) :: _ => [.fault ⟨.secondPrimaryKey, second.start⟩]

/-- The members that are as they should be. -/
def faultless (members : List (Except Diagnostic Member)) : List Member :=
  members.filterMap fun
    | .ok member => some member
    | .error _ => none

/-- The calls for a block and the name of its table. -/
def Block.calls (block : Block) (tableName : Option String) : List Call :=
  let members := block.members.map Member.ofSyntax
  [.new block.type.name] ++ (tableName.map Call.tableName).toList
    ++ primaryKeyCalls (faultless members) ++ members.map memberCall

/-- Why a declaration has no calls. -/
inductive ExpansionError where
  /-- One of its texts has no tokens. -/
  | noTokens
  /-- One of its texts is not what it has to be. -/
  | malformed (diagnostic : Diagnostic)
deriving DecidableEq, Repr

/-- What is said about a declaration without calls. -/
def ExpansionError.message : ExpansionError → String
  | .noTokens => "cannot parse string into token stream"
  | .malformed diagnostic => diagnostic.fault.message

/-- A declaration in the form of calls. -/
structure Expansion where
  /-- The type that is described. -/
  type : Path
  calls : List Call
deriving DecidableEq, Repr

/-- The name of the table, for which a declaration has one text or none. -/
def tableNameArgument (tokens : List Token) : Except Diagnostic (Option String) :=
  if tokens.isEmpty then .ok none else (readAll stringLiteral tokens).map some

/-- The calls of a declaration with the text of its argument and that of its block. -/
def expand (argument text : String) : Except ExpansionError Expansion := do
  let (argument, text) ←
    match tokens argument, tokens text with
    | some argument, some text => pure (argument, text)
    | _, _ => throw .noTokens
  let tableName ← (tableNameArgument argument).mapError .malformed
  let block ← (readAll block text).mapError .malformed
  return ⟨block.type, block.calls tableName⟩

namespace Expansion

/-- The first fault among the calls. -/
def fault? (expansion : Expansion) : Option Diagnostic :=
  expansion.calls.findSome? fun
    | .fault diagnostic => some diagnostic
    | _ => none

end Expansion

/-- Carry out one call. The schema that a path leads to is found by the whole path. -/
def Call.perform {size : Nat} (find : Path → Option (Fin size)) (schema : Schema size)
    : Call → Option (Schema size)
  | .new typeName => some { name := typeName }
  | .tableName name => some { schema with tableName := some name }
  | .primaryKey column => some { schema with primaryKey := some column }
  | .field column jsonKey =>
    some { schema with fields := schema.fields ++ [⟨column, jsonKey⟩] }
  | .relation kind name foreignKey target jsonKey =>
    (find target).map fun index =>
      let link : RelationLink size := ⟨name, kind, foreignKey, jsonKey.getD name, false, index⟩
      { schema with relations := schema.relations ++ [link] }
  | .embed name target jsonKey =>
    (find target).map fun index =>
      let link := { RelationLink.embedded name index with jsonKey := jsonKey.getD name }
      { schema with relations := schema.relations ++ [link] }
  | .fault _ => none

/-- The schema that the calls of a declaration describe. It needs all calls to be faultless and
all targets to be found.
-/
def Expansion.schema? {size : Nat} (find : Path → Option (Fin size)) (expansion : Expansion)
    : Option (Schema size) :=
  expansion.calls.foldlM (Call.perform find) { name := expansion.type.name }

end NestedSelect.Declaration
