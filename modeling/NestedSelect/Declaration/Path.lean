import NestedSelect.Declaration.Token
/-!
Paths, and types as far as it matters what they are.
-/

namespace NestedSelect.Declaration

/-- A path to a type. -/
structure Path where
  /-- The name at the end of the path. -/
  name : String
  /-- The path in the form in which it is written out again. -/
  tokens : List Token
  position : Position
deriving DecidableEq, Repr

/-- Where nothing else is asked of a path, it goes by the name at its end. -/
instance : Coe Path String := ⟨Path.name⟩

/-- A path as text. -/
def Path.text (path : Path) : String := spell path.tokens

/-- A type, told apart as far as it matters what may be done with it. -/
inductive TypeShape where
  /-- A path. It is `isApplied` when it is a single name with arguments in angle brackets. -/
  | named (path : Path) (isApplied : Bool)
  | slice (position : Position) (element : TypeShape)
  | parenthesized (position : Position)
  /-- An object type that is not marked as one. With a single bound it is told whether that one
  stands in parentheses.
  -/
  | object (position : Position) (single : Option Bool)
  /-- Any other type, by where it starts. -/
  | other (position : Position)
deriving DecidableEq, Repr

/-- Where a type starts. -/
def TypeShape.position : TypeShape → Position
  | .named path _ => path.position
  | .slice position _ | .parenthesized position | .object position _ | .other position => position

end NestedSelect.Declaration
