import NestedSelect.QueryError
import NestedSelect.Schema.Basic
/-!
Embedding. Resolving a schema replaces its embedding links by what their targets contribute,
which are themselves resolved first. A schema that embeds itself, at whatever depth, has no
resolved form. Schemas are told apart by name here.
-/

namespace NestedSelect

namespace Schema

variable {size : Nat}

/-- The schema with the contributions of its resolved embedding targets. Contributed fields and
relations come before its own. A table name or a primary key is only taken over where the schema
has none, and then from the first target that has one.
-/
def withEmbedded (schema : Schema size) (embedded : List (Schema size)) : Schema size where
  name := schema.name
  tableName := (schema :: embedded).findSome? (·.tableName)
  primaryKey := (schema :: embedded).findSome? (·.primaryKey)
  fields := embedded.flatMap (·.fields) ++ schema.fields
  relations := embedded.flatMap (·.relations) ++ schema.relations.filter (!·.embed)

/-- The targets of the embedding links in the order of the links. -/
def embedTargets (schema : Schema size) : List (Fin size) :=
  (schema.relations.filter (·.embed)).map (·.target)

end Schema

namespace Catalog

variable {size : Nat}

/-- How many schemas of a catalog have a name that is not on the stack. -/
def unvisited (catalog : Catalog size) (stack : List String) : Nat :=
  ((List.finRange size).filter fun index => (catalog index).name ∉ stack).length

/-- Putting the name of a schema on the stack leaves fewer schemas to visit, because at least
this one no longer counts.
-/
theorem unvisited_cons_lt (catalog : Catalog size) (stack : List String) (index : Fin size)
    (fresh : (catalog index).name ∉ stack)
    : catalog.unvisited ((catalog index).name :: stack) < catalog.unvisited stack := by
  have shrink
      : ∀ (indices : List (Fin size)),
          (indices.filter fun i => (catalog i).name ∉ (catalog index).name :: stack).length
            ≤ (indices.filter fun i => (catalog i).name ∉ stack).length := by
    intro indices
    induction indices with
    | nil => simp
    | cons i rest ih => grind
  have strict
      : ∀ (indices : List (Fin size)),
          index ∈ indices
          → (indices.filter fun i => (catalog i).name ∉ (catalog index).name :: stack).length
              < (indices.filter fun i => (catalog i).name ∉ stack).length := by
    intro indices member
    induction indices with
    | nil => simp at member
    | cons i rest ih =>
      have := shrink rest
      grind
  exact strict _ (List.mem_finRange index)

/-- The resolved form of a schema of the catalog that is embedded by the schemas named on the
stack.
-/
def resolveUnder (catalog : Catalog size) (stack : List String) (index : Fin size)
    : Except QueryError (Schema size) :=
  if _ : (catalog index).name ∈ stack then
    .error (.schema (catalog index).name .embeddingCycle)
  else do
    let embedded ←
      (catalog index).embedTargets.mapM fun target =>
        catalog.resolveUnder ((catalog index).name :: stack) target
    return (catalog index).withEmbedded embedded
termination_by catalog.unvisited stack
decreasing_by exact unvisited_cons_lt catalog stack index (by assumption)

end Catalog

/-- The schema with everything it embeds expanded, or the first embedding cycle met. -/
def Schema.resolve {size : Nat} (catalog : Catalog size) (schema : Schema size)
    : Except QueryError (Schema size) := do
  let embedded ← schema.embedTargets.mapM (catalog.resolveUnder [schema.name])
  return schema.withEmbedded embedded

end NestedSelect
