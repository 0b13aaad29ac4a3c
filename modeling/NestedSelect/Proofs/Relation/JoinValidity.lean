import NestedSelect.Proofs.Schema.ResolvedRelations
import NestedSelect.Relation.Resolution
/-!
Valid join trees. A tree is valid if every node below the root names a relation of its parent that
leads to a table and has the key it needs. The violations of a tree are listed in the order in
which building looks for them, and building reports the first.
-/

namespace NestedSelect

variable {size : Nat}

-----------------------------------------------------------------------------------------
-- Validity
-----------------------------------------------------------------------------------------

/-- The primary key that the foreign key of a relation references. -/
def Schema.referenced (parent child : Schema size) : RelationKind → Option String
  | .one => child.primaryKey
  | .many => parent.primaryKey

namespace JoinNode

mutual

/-- The tree below a node whose schema has been resolved is valid. -/
def Valid (catalog : Catalog size) (schema : Schema size) : JoinNode → Prop
  | ⟨_, _, _, children⟩ => AllValid catalog schema children

/-- Each of the children names a relation of the parent that leads to a table and has its key, and
is valid below.
-/
def AllValid (catalog : Catalog size) (parent : Schema size) : List JoinNode → Prop
  | [] => True
  | node :: rest =>
    (∃ link child,
      parent.findRelation? node.fieldName = some link
      ∧ (catalog link.target).resolve catalog = .ok child
      ∧ child.tableName.isSome
      ∧ (parent.referenced child link.kind).isSome
      ∧ node.Valid catalog child)
    ∧ AllValid catalog parent rest

end

end JoinNode

/-- The tree can be joined to the table of a root schema. -/
def Catalog.Joinable (catalog : Catalog size) (root : Fin size) (tree : JoinNode) : Prop :=
  ∃ schema,
    (catalog root).resolve catalog = .ok schema
    ∧ schema.tableName.isSome
    ∧ tree.Valid catalog schema

-----------------------------------------------------------------------------------------
-- Violations
-----------------------------------------------------------------------------------------

/-- The dotted path of a list of field names. -/
def dotted (trail : List String) : String :=
  ".".intercalate trail

/-- What is violated by a field name, as the end of a trail. A name that is no relation may still be
the column or the JSON key of a field.
-/
def Schema.lookupViolations (parent : Schema size) (trail : List String) (fieldName : String)
    : List QueryError :=
  match parent.findRelation? fieldName with
  | some _ => []
  | none =>
    if ∃ field ∈ parent.fields, field.column = fieldName ∨ field.jsonKey = fieldName then
      [.notARelation (dotted trail) fieldName parent.name]
    else [.unknownJoinField (dotted trail) fieldName parent.name]

/-- What is violated by the key of a relation at the end of a trail. The key is missing on the table
that the foreign key references. Each side comes with its table.
-/
def keyViolations (trail : List String) (parent child : Schema size × String)
    (kind : RelationKind)
    : List QueryError :=
  match parent.1.referenced child.1 kind with
  | some _ => []
  | none =>
    match kind with
    | .one => [.missingPrimaryKey (dotted trail) child.2]
    | .many => [.missingPrimaryKey (dotted trail) parent.2]

/-- What is violated by a schema as a table, and what is violated later on if it is one. -/
def Catalog.tableViolations (catalog : Catalog size) (index : Fin size)
    (later : Schema size × String → List QueryError)
    : List QueryError :=
  match (catalog index).resolve catalog with
  | .error error => [error]
  | .ok schema =>
    match schema.tableName with
    | none => [.schema schema.name .notATable]
    | some table => later (schema, table)

/-- The position of the first relation with a field name. -/
def Schema.relationPosition (schema : Schema size) (fieldName : String) : Nat :=
  schema.relations.findIdx (·.fieldName = fieldName)

namespace JoinNode

mutual

/-- What is violated below a node, at the end of a trail. First come the field names of all children
in the order of the tree. Then come the children in the order in which the relations are declared,
each followed by all that is violated below it.
-/
def violations (catalog : Catalog size) (place : Schema size × String) (trail : List String)
    : JoinNode → List QueryError
  | ⟨_, _, _, children⟩ =>
    (children.flatMap fun child =>
        place.1.lookupViolations (trail ++ [child.fieldName]) child.fieldName)
      ++ (List.range place.1.relations.length).flatMap fun position =>
          violationsAt catalog place trail position children

/-- What is violated at and below the children whose relation is declared at a position. -/
def violationsAt (catalog : Catalog size) (parent : Schema size × String) (trail : List String)
    (position : Nat)
    : List JoinNode → List QueryError
  | [] => []
  | node :: rest =>
    (match parent.1.findRelation? node.fieldName with
      | none => []
      | some link =>
        if parent.1.relationPosition node.fieldName = position then
          catalog.tableViolations link.target fun child =>
            keyViolations (trail ++ [node.fieldName]) parent child link.kind
              ++ node.violations catalog child (trail ++ [node.fieldName])
        else [])
      ++ violationsAt catalog parent trail position rest

end

end JoinNode

/-- All that is violated by joining a tree to the table of a root schema. -/
def Catalog.joinViolations (catalog : Catalog size) (root : Fin size) (tree : JoinNode)
    : List QueryError :=
  catalog.tableViolations root fun place => tree.violations catalog place []

-----------------------------------------------------------------------------------------
-- Valid trees are those without violations
-----------------------------------------------------------------------------------------

/-- A relation that is found by name is a relation of that name. -/
theorem Schema.findRelation?_named {schema : Schema size} {fieldName : String}
    {link : RelationLink size} (found : schema.findRelation? fieldName = some link)
    : link ∈ schema.relations ∧ link.fieldName = fieldName := by
  unfold findRelation? at found
  exact ⟨List.mem_of_find?_eq_some found, by simpa using List.find?_some found⟩

/-- The position of a name is one of the relations if there is a relation of that name. -/
theorem Schema.relationPosition_lt {schema : Schema size} {fieldName : String}
    {link : RelationLink size} (found : schema.findRelation? fieldName = some link)
    : schema.relationPosition fieldName < schema.relations.length := by
  obtain ⟨member, named⟩ := findRelation?_named found
  exact List.findIdx_lt_length_of_exists ⟨link, member, decide_eq_true named⟩

/-- Names of relations with one position are the same, and so are the relations that they find. -/
theorem Schema.findRelation?_of_position {schema : Schema size} {first second : String}
    {link other : RelationLink size} (found : schema.findRelation? first = some link)
    (otherFound : schema.findRelation? second = some other)
    (same : schema.relationPosition first = schema.relationPosition second)
    : link = other ∧ first = second := by
  have lookups : schema.findRelation? first = schema.findRelation? second := by
    rw [findRelation?, findRelation?, List.find?_eq_getElem?_findIdx,
      List.find?_eq_getElem?_findIdx]
    exact congrArg (schema.relations[·]?) same
  rw [found, otherFound, Option.some.injEq] at lookups
  subst lookups
  exact ⟨rfl, (findRelation?_named found).2.symm.trans (findRelation?_named otherFound).2⟩

/-- A name is looked up without a violation exactly if there is a relation of that name. -/
theorem Schema.lookupViolations_eq_nil_iff (parent : Schema size) (trail : List String)
    (fieldName : String)
    : parent.lookupViolations trail fieldName = []
      ↔ ∃ link, parent.findRelation? fieldName = some link := by
  unfold lookupViolations
  cases parent.findRelation? fieldName with
  | some link => simp
  | none => dsimp only; split <;> simp

theorem keyViolations_eq_nil_iff (trail : List String) (parent child : Schema size × String)
    (kind : RelationKind)
    : keyViolations trail parent child kind = []
      ↔ (parent.1.referenced child.1 kind).isSome := by
  unfold keyViolations
  cases key : parent.1.referenced child.1 kind <;> cases kind <;> simp

/-- Nothing is violated behind a target exactly if it is a table behind which nothing is. -/
theorem Catalog.tableViolations_eq_nil_iff (catalog : Catalog size) (index : Fin size)
    (later : Schema size × String → List QueryError)
    : catalog.tableViolations index later = []
      ↔ ∃ schema table,
          (catalog index).resolve catalog = .ok schema
          ∧ schema.tableName = some table
          ∧ later (schema, table) = [] := by
  unfold tableViolations
  cases (catalog index).resolve catalog with
  | error error => simp
  | ok schema => cases named : schema.tableName <;> simp [named]

namespace JoinNode

mutual

/-- Nothing is violated below a node exactly if the tree below it is valid. By induction over the
tree.
-/
theorem violations_eq_nil_iff (catalog : Catalog size) (place : Schema size × String)
    (trail : List String) (node : JoinNode)
    : node.violations catalog place trail = [] ↔ node.Valid catalog place.1 := by
  match node with
  | ⟨_, _, _, children⟩ =>
      rw [violations, Valid, List.append_eq_nil_iff, List.flatMap_eq_nil_iff,
        ← allValid_iff catalog place trail children]
      simp

/-- Nothing is violated by looking up some children, nor at the position of any, exactly if all of
them are valid.
-/
theorem allValid_iff (catalog : Catalog size) (parent : Schema size × String)
    (trail : List String) (nodes : List JoinNode)
    : ((∀ node ∈ nodes,
          parent.1.lookupViolations (trail ++ [node.fieldName]) node.fieldName = [])
        ∧ ∀ position < parent.1.relations.length,
          violationsAt catalog parent trail position nodes = [])
      ↔ AllValid catalog parent.1 nodes := by
  match nodes with
  | [] => simp [violationsAt, AllValid]
  | node :: rest =>
      rw [AllValid, ← allValid_iff catalog parent trail rest, List.forall_mem_cons,
        Schema.lookupViolations_eq_nil_iff]
      cases found : parent.1.findRelation? node.fieldName with
      | none => simp
      | some link =>
          have inside := Schema.relationPosition_lt found
          have below (child : Schema size × String) :=
            violations_eq_nil_iff catalog child (trail ++ [node.fieldName]) node
          -- The node is looked at in one position only, that of its relation.
          have step (position : Nat)
              : violationsAt catalog parent trail position (node :: rest) = []
                ↔ (parent.1.relationPosition node.fieldName = position
                    → ∃ child table,
                      (catalog link.target).resolve catalog = .ok child
                      ∧ child.tableName = some table
                      ∧ (parent.1.referenced child link.kind).isSome
                      ∧ node.Valid catalog child)
                  ∧ violationsAt catalog parent trail position rest = [] := by
            simp only [violationsAt, found, List.append_eq_nil_iff, ite_eq_right_iff,
              Catalog.tableViolations_eq_nil_iff, keyViolations_eq_nil_iff, below]
          simp only [step, Option.isSome_iff_exists]
          constructor
          · rintro ⟨⟨_, lookups⟩, each⟩
            obtain ⟨child, table, resolves, named, key, valid⟩ := (each _ inside).1 rfl
            exact ⟨⟨link, child, rfl, resolves, ⟨table, named⟩, key, valid⟩, lookups,
              fun position bound => (each position bound).2⟩
          · rintro ⟨⟨_, child, ⟨⟩, resolves, ⟨table, named⟩, key, valid⟩, lookups, later⟩
            exact ⟨⟨⟨link, rfl⟩, lookups⟩, fun position bound =>
              ⟨fun _ => ⟨child, table, resolves, named, key, valid⟩, later position bound⟩⟩

end

end JoinNode

/-- Nothing is violated by joining a tree exactly if it can be joined. -/
theorem Catalog.joinViolations_eq_nil_iff (catalog : Catalog size) (root : Fin size)
    (tree : JoinNode)
    : catalog.joinViolations root tree = [] ↔ catalog.Joinable root tree := by
  simp only [joinViolations, tableViolations_eq_nil_iff, JoinNode.violations_eq_nil_iff, Joinable,
    Option.isSome_iff_exists]
  constructor
  · rintro ⟨schema, table, resolves, named, valid⟩
    exact ⟨schema, resolves, ⟨table, named⟩, valid⟩
  · rintro ⟨schema, resolves, ⟨table, named⟩, valid⟩
    exact ⟨schema, table, resolves, named, valid⟩

end NestedSelect
