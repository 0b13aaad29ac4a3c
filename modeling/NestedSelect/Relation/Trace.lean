import NestedSelect.QueryError
import NestedSelect.Schema.Basic
/-!
Computations that leave a trace of the relations they resolve. The trace is kept when the
computation fails later on.
-/

namespace NestedSelect

/-- The resolution of one relation below the root. -/
structure ResolvedRelation where
  path : String
  aliasName : String
  kind : RelationKind
deriving DecidableEq, Repr

/-- An outcome together with the resolutions that led to it. -/
structure Traced (α : Type) where
  events : List ResolvedRelation
  outcome : Except QueryError α

namespace Traced

variable {α β : Type}

/-- An outcome that resolves nothing. -/
def of (outcome : Except QueryError α) : Traced α := ⟨[], outcome⟩

/-- The resolution of one relation. -/
def resolved (event : ResolvedRelation) : Traced Unit := ⟨[event], .ok ()⟩

/-- Go on after a success, and keep the events of both. -/
def andThen (first : Traced α) (next : α → Traced β) : Traced β :=
  match first.outcome with
  | .error error => ⟨first.events, .error error⟩
  | .ok value => ⟨first.events ++ (next value).events, (next value).outcome⟩

instance : Monad Traced where
  pure value := ⟨[], .ok value⟩
  bind := andThen

end Traced

end NestedSelect
