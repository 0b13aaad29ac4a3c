import NestedSelect.Inspection.Document
import NestedSelect.Select
/-!
The inspection documents of join trees, relation trees and selects. Of a subquery they only tell
whether there is one.
-/

namespace NestedSelect

open Inspection

def JoinType.document : JoinType → Document
  | .left => .word "Left"
  | .right => .word "Right"
  | .inner => .word "Inner"
  | .fullOuter => .word "FullOuter"

def JoinSpec.document (spec : JoinSpec) : Document :=
  .record "JoinSpec" [
    ("join_type", spec.joinType.document),
    ("subquery", .flag spec.subquery.isSome),
    ("order_by", .optionalText spec.orderBy)]

mutual

def JoinNode.document : JoinNode → Document
  | ⟨fieldName, spec, explicit, children⟩ =>
    .record "JoinNode" [
      ("field_name", .text fieldName),
      ("spec", spec.document),
      ("explicit", .flag explicit),
      ("children", .list (JoinNode.documents children))]

def JoinNode.documents : List JoinNode → List Document
  | [] => []
  | node :: rest => node.document :: JoinNode.documents rest

end

def Field.document (field : Field) : Document :=
  .record "Field" [("column", .text field.column), ("json_key", .text field.jsonKey)]

mutual

def Relation.document : Relation → Document
  | ⟨use, one, many⟩ =>
    .record "Relation" [
      ("path", .text use.path),
      ("alias", .text use.aliasName),
      ("table", .text use.table),
      ("primary_key", .optionalText use.primaryKey),
      ("join_type", use.spec.joinType.document),
      ("subquery", .flag use.spec.subquery.isSome),
      ("order_by", .optionalText use.spec.orderBy),
      ("fields", .list (use.fields.map Field.document)),
      ("one", .list (Relation.joinedDocuments one)),
      ("many", .list (Relation.joinedDocuments many))]

def Relation.joinedDocuments : List (Joined Relation) → List Document
  | [] => []
  | ⟨keys, relation⟩ :: rest =>
    .record "Joined" [
      ("json_key", .text keys.jsonKey),
      ("foreign_key", .text keys.foreignKey),
      ("referenced_key", .text keys.referencedKey),
      ("relation", relation.document)]
      :: Relation.joinedDocuments rest

end

def RenderOptions.document (options : RenderOptions) : Document :=
  .record "RenderOptions" [
    ("pretty", .flag (options.layout = .pretty)),
    ("seq_column", .text options.sequenceColumn)]

/-- A select is shown with the name of its root schema as declared. -/
def Select.document {size : Nat} (catalog : Catalog size) (select : Select size) : Document :=
  .record "Select" [
    ("root", .text (catalog select.root).name),
    ("root_spec", select.rootSpec.document),
    ("joins", .map (select.joins.map fun request => (request.1, request.2.document))),
    ("options", select.options.document)]

end NestedSelect
