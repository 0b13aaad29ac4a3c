import NestedSelect.Statement.Projection
/-!
Rendering a relation tree as one statement. A relation with one row is joined beside its parent,
and what is joined to it follows it there. A relation with many rows is a nested select of its
own, aggregated for each value of its foreign key.
-/

namespace NestedSelect

namespace Relation

/-- The rows of a correlated relation are aggregated for each foreign key. -/
def grouping (aliasName : String) : Option Correlation → Draft
  | none => []
  | some correlation =>
    [.line .keep, .text "group by "] ++ Draft.column aliasName correlation.foreignKey

/-- An `on` clause that equates a column of a child with a column of its parent. -/
def onClause (child childColumn parent parentColumn : String) : Draft :=
  [.text " on "] ++ Draft.column child childColumn ++ [.text " = "]
    ++ Draft.column parent parentColumn

/-- The line on which a relation is joined, up to its source. -/
def joinHead (use : TableUse) : Draft :=
  [.line .keep, .text use.spec.joinType.sql, .text " lateral "]

mutual

/-- The select over a relation and all that is joined to it. -/
def select (options : RenderOptions) (correlation : Option Correlation) : Relation → Writing
  | ⟨use, one, many⟩ =>
    .parts
        ([.text "select", .line .deeper] ++ selectList options ⟨use, one, many⟩ correlation
          ++ [.line .shallower, .text "from "])
      ++ use.source options correlation
      ++ joinOne options use.aliasName one
      ++ joinMany options use.aliasName many
      ++ .parts (grouping use.aliasName correlation)

/-- The joins of the one-relations of a parent. -/
def joinOne (options : RenderOptions) (parent : String) : List (Joined Relation) → Writing
  | [] => .parts []
  | ⟨keys, ⟨use, one, many⟩⟩ :: rest =>
    .parts (joinHead use)
      ++ use.source options none
      ++ .parts (onClause use.aliasName keys.referencedKey parent keys.foreignKey)
      ++ joinOne options use.aliasName one
      ++ joinMany options use.aliasName many
      ++ joinOne options parent rest

/-- The joins of the many-relations of a parent. -/
def joinMany (options : RenderOptions) (parent : String) : List (Joined Relation) → Writing
  | [] => .parts []
  | ⟨keys, relation⟩ :: rest =>
    .parts (joinHead relation.use ++ [.text "(", .line .deeper])
      ++ relation.select options (some ⟨parent, keys.foreignKey, keys.referencedKey⟩)
      ++ .parts
        ([.line .shallower, .text ") ", .identifier relation.use.aliasName]
          ++ onClause relation.use.aliasName keys.foreignKey parent keys.referencedKey)
      ++ joinMany options parent rest

end

end Relation

/-- A statement with the arguments of its placeholders, in order. -/
structure Rendered where
  sql : String
  arguments : List Value
deriving DecidableEq, Repr

namespace Relation

/-- The statement that selects a relation tree, where `offset` arguments come before its own. -/
def renderAfter (relation : Relation) (options : RenderOptions) (offset : Nat)
    : Except QueryError Rendered := do
  let stretch ← relation.select options none offset
  return ⟨Draft.write options.layout stretch.parts, stretch.arguments⟩

/-- The statement that selects a relation tree. -/
def render (relation : Relation) (options : RenderOptions) : Except QueryError Rendered :=
  relation.renderAfter options 0

end Relation

end NestedSelect
