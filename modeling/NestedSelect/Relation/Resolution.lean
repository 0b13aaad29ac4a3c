import NestedSelect.Join.Tree
import NestedSelect.Relation.Basic
import NestedSelect.Relation.Trace
import NestedSelect.Schema.Embedding
/-!
From a join tree and a catalog to a relation tree. Only the relations in the join tree are
visited, so schemas that reference each other never expand on their own.

At each node all children are looked up in the order of the tree before any of them is resolved.
They are then resolved in the order in which the parent's schema declares their relations.
-/

namespace NestedSelect

variable {size : Nat}

/-- The resolved form of a schema of the catalog, with its table name. -/
def Catalog.resolveTable (catalog : Catalog size) (index : Fin size)
    : Except QueryError (Schema size × String) := do
  let schema ← (catalog index).resolve catalog
  match schema.tableName with
  | some table => return (schema, table)
  | none => throw (.schema schema.name .notATable)

/-- Where in a statement a node of the join tree has been placed. -/
structure Place (size : Nat) where
  /-- The resolved schema of the node. -/
  schema : Schema size
  table : String
  path : String
  aliasName : String

/-- A child in the join tree, as a way to make its relation once its place is known. -/
structure Branch (size : Nat) where
  fieldName : String
  relate : Place size → Traced Relation

/-- A child whose relation has been found in the parent's schema. -/
structure FoundBranch (size : Nat) where
  /-- The position of the link among the relations of the parent's schema. -/
  position : Nat
  link : RelationLink size
  path : String
  branch : Branch size

namespace Place

/-- The path of a child. Below an empty path it is the bare field name. -/
def childPath (place : Place size) (fieldName : String) : String :=
  if place.path = "" then fieldName else place.path ++ "." ++ fieldName

/-- The link that a child is joined through, with its position. -/
def find (place : Place size) (branch : Branch size)
    : Except QueryError (FoundBranch size) :=
  let path := place.childPath branch.fieldName
  let named := fun (link : RelationLink size) => link.fieldName == branch.fieldName
  match place.schema.relations.find? named with
  | some link => .ok ⟨place.schema.relations.findIdx named, link, path, branch⟩
  | none =>
    if place.schema.hasScalar branch.fieldName then
      .error (.notARelation path branch.fieldName place.schema.name)
    else .error (.unknownJoinField path branch.fieldName place.schema.name)

/-- Children by the position of their links. Children of one position keep their order. -/
def inDeclarationOrder (place : Place size) (found : List (FoundBranch size))
    : List (FoundBranch size) :=
  (List.range place.schema.relations.length).flatMap fun position =>
    found.filter (·.position = position)

/-- The primary key that a link's foreign key references. -/
def referencedKey (place : Place size) (path : String) (child : Place size)
    : RelationKind → Except QueryError String
  | .one =>
    match child.schema.primaryKey with
    | some key => .ok key
    | none => .error (.missingPrimaryKey path child.table)
  | .many =>
    match place.schema.primaryKey with
    | some key => .ok key
    | none => .error (.missingPrimaryKey path place.table)

/-- Resolve a child and join it to the relation at this place. -/
def joinBranch (catalog : Catalog size) (place : Place size) (found : FoundBranch size)
    : Traced (RelationKind × Joined Relation) := do
  let (schema, table) ← .of (catalog.resolveTable found.link.target)
  let child : Place size :=
    { schema, table, path := found.path, aliasName := place.aliasName ++ "." ++ found.link.jsonKey }
  let referencedKey ← .of (place.referencedKey found.path child found.link.kind)
  Traced.resolved ⟨child.path, child.aliasName, found.link.kind⟩
  let relation ← found.branch.relate child
  let keys : JoinKeys := ⟨found.link.jsonKey, found.link.foreignKey, referencedKey⟩
  return (found.link.kind, ⟨keys, relation⟩)

/-- The children of one kind. -/
def ofKind (kind : RelationKind) (children : List (RelationKind × Joined Relation))
    : List (Joined Relation) :=
  (children.filter (·.1 = kind)).map (·.2)

/-- The relation at a place with the given children below it. -/
def relation (catalog : Catalog size) (place : Place size) (spec : JoinSpec)
    (branches : List (Branch size)) : Traced Relation := do
  let found ← .of (branches.mapM place.find)
  let children ← (place.inDeclarationOrder found).mapM (place.joinBranch catalog)
  return {
    use := {
      path := place.path
      aliasName := place.aliasName
      table := place.table
      primaryKey := place.schema.primaryKey
      spec
      fields := place.schema.fields
    }
    one := ofKind .one children
    many := ofKind .many children
  }

end Place

namespace JoinNode

mutual

/-- The relation that a node of a join tree stands for at its place. -/
def relate (catalog : Catalog size) : JoinNode → Place size → Traced Relation
  | ⟨_, spec, _, children⟩, place => place.relation catalog spec (branches catalog children)

/-- The children of a node, each with the way to make its relation. -/
def branches (catalog : Catalog size) : List JoinNode → List (Branch size)
  | [] => []
  | node :: rest => ⟨node.fieldName, node.relate catalog⟩ :: branches catalog rest

end

end JoinNode

/-- The relation tree of a join tree over the table described by `root`. -/
def Relation.build (catalog : Catalog size) (root : Fin size) (tree : JoinNode)
    : Traced Relation := do
  let (schema, table) ← .of (catalog.resolveTable root)
  tree.relate catalog { schema, table, path := "", aliasName := table }

end NestedSelect
