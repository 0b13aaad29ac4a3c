/-!
Schemas: how record types map onto tables, columns and relations. The schemas of a catalog refer
to one another by index, so they may describe tables that reference each other.
-/

namespace NestedSelect

/-- A column that becomes a member of the JSON object of its row. -/
structure Field where
  column : String
  jsonKey : String
deriving DecidableEq, Repr

/-- The field is addressed by this name, be it its column or its JSON key. -/
def Field.isNamed (field : Field) (name : String) : Bool :=
  field.column == name || field.jsonKey == name

/-- How many rows a relation has, and on which side its foreign key is. -/
inductive RelationKind where
  /-- The parent holds the foreign key, and one row of the target belongs to it. -/
  | one
  /-- The target holds the foreign key, and any number of its rows belong to the parent. -/
  | many
deriving DecidableEq, Repr

/-- A relation from one schema to another schema of a catalog of `size` schemas. -/
structure RelationLink (size : Nat) where
  /-- The name of the relation in join paths. -/
  fieldName : String
  kind : RelationKind
  foreignKey : String
  jsonKey : String
  /-- The members of the target are taken over instead of being joined. -/
  embed : Bool
  target : Fin size
deriving DecidableEq, Repr

namespace RelationLink

variable {size : Nat}

/-- A relation to the row that the parent's `foreignKey` references. -/
def one (fieldName foreignKey : String) (target : Fin size) : RelationLink size :=
  ⟨fieldName, .one, foreignKey, fieldName, false, target⟩

/-- A relation to the rows whose `foreignKey` references the parent. -/
def many (fieldName foreignKey : String) (target : Fin size) : RelationLink size :=
  ⟨fieldName, .many, foreignKey, fieldName, false, target⟩

/-- An embedding of the target. It has no foreign key. -/
def embedded (fieldName : String) (target : Fin size) : RelationLink size :=
  ⟨fieldName, .one, "", fieldName, true, target⟩

end RelationLink

/-- The description of one record type. Without a table name it can only be embedded. -/
structure Schema (size : Nat) where
  /-- The name of the record type. -/
  name : String
  tableName : Option String := none
  primaryKey : Option String := none
  fields : List Field := []
  relations : List (RelationLink size) := []
deriving DecidableEq, Repr

/-- A finite family of schemas whose links stay within the family. -/
abbrev Catalog (size : Nat) := Fin size → Schema size

namespace Schema

variable {size : Nat}

/-- The first relation with a field name. -/
def findRelation? (schema : Schema size) (fieldName : String) : Option (RelationLink size) :=
  schema.relations.find? (·.fieldName = fieldName)

/-- Some field of the schema is addressed by `name`. -/
def hasScalar (schema : Schema size) (name : String) : Bool :=
  schema.fields.any (·.isNamed name)

/-- A scalar is found by the column and by the JSON key of each field. -/
theorem hasScalar_iff (schema : Schema size) (name : String)
    : schema.hasScalar name = true
      ↔ ∃ field ∈ schema.fields, field.column = name ∨ field.jsonKey = name := by
  simp [hasScalar, Field.isNamed]

end Schema

end NestedSelect
