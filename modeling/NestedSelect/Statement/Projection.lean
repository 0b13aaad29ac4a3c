import NestedSelect.Relation.Basic
import NestedSelect.Statement.Source
/-!
The select list of a statement: the rows of a relation as one JSON array. A one-relation is an
object within the object of its parent, and a many-relation is the array that its own nested
select exports.
-/

namespace NestedSelect

/-- The members of a JSON object as the arguments of its constructor. -/
def jsonMembers (members : List (String × Draft)) : Draft :=
  List.intercalate [.text ", "]
    (members.map fun member => .literal member.1 :: .text ", " :: member.2)

/-- A JSON object without its null members. An absent row, whose primary key is null, has no
object.
-/
def TableUse.jsonObject (use : TableUse) (members : List (String × Draft)) : Draft :=
  let object :=
    [.text "json_strip_nulls(json_build_object("] ++ jsonMembers members ++ [.text "))"]
  match use.primaryKey with
  | none => object
  | some key =>
    [.text "case when "] ++ Draft.column use.aliasName key ++ [.text " is null then null else "]
      ++ object ++ [.text " end"]

/-- The member for a column. -/
def TableUse.columnMember (use : TableUse) (field : Field) : String × Draft :=
  (field.jsonKey, Draft.column use.aliasName field.column)

/-- The member for a relation with many rows. -/
def Joined.arrayMember (joined : Joined Relation) : String × Draft :=
  let use := joined.relation.use
  (joined.keys.jsonKey, Draft.column use.aliasName use.aggregateColumn)

namespace Relation

mutual

/-- The JSON object of one row. -/
def jsonObject : Relation → Draft
  | ⟨use, one, many⟩ =>
    use.jsonObject
      (use.fields.map use.columnMember ++ objectMembers one ++ many.map Joined.arrayMember)

/-- The members for relations with one row. -/
def objectMembers : List (Joined Relation) → List (String × Draft)
  | [] => []
  | ⟨keys, relation⟩ :: rest => (keys.jsonKey, relation.jsonObject) :: objectMembers rest

end

/-- The array of all rows, sorted by the expression of the relation if it has one and then by
row number.
-/
def aggregate (options : RenderOptions) (relation : Relation) : Draft :=
  let use := relation.use
  [.text "json_agg("] ++ relation.jsonObject ++ [.text " order by "]
    ++ (match use.spec.orderBy with
      | none => []
      | some expression => [.text expression, .text ", "])
    ++ Draft.column use.aliasName options.sequenceColumn
    ++ [.text ") as ", .identifier use.aggregateColumn]

/-- The select list of a relation. A correlated one exports its foreign key as well. -/
def selectList (options : RenderOptions) (relation : Relation) (correlation : Option Correlation)
    : Draft :=
  (match correlation with
    | none => []
    | some correlation =>
      Draft.column relation.use.aliasName correlation.foreignKey ++ [.text ",", .line .keep])
    ++ relation.aggregate options

end Relation

end NestedSelect
