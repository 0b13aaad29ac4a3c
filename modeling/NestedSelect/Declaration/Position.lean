/-!
Positions in the text of a declaration.
-/

namespace NestedSelect.Declaration

/-- A place in a text: a line, counted from one, and a column in characters, from zero. -/
structure Position where
  line : Nat
  column : Nat
deriving DecidableEq, Repr

namespace Position

/-- Where a text starts. An error for which no token is left to point at is placed here. -/
def start : Position := ⟨1, 0⟩

/-- The position after one character. -/
def next (position : Position) (c : Char) : Position :=
  if c = '\n' then ⟨position.line + 1, 0⟩ else ⟨position.line, position.column + 1⟩

/-- The position after a stretch of text. -/
def after (position : Position) (text : List Char) : Position :=
  text.foldl next position

end Position

end NestedSelect.Declaration
