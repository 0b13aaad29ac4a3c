import NestedSelect.Declaration.Attribute
import NestedSelect.Declaration.Path
/-!
The parts of the grammar that stand inside of each other: types hold constants, constants hold
blocks of statements, and statements hold types again. A grammar is given by readers for these
parts. The readers of the next larger parts are made from them.
-/

namespace NestedSelect.Declaration

open Reader

/-- How tightly an operation binds, the loosest ones first. -/
inductive Precedence where
  /-- No operation at all. -/
  | any
  | assignment
  | range
  | disjunction
  | conjunction
  | comparison
  | bitOr
  | bitXor
  | bitAnd
  | shift
  | sum
  | product
  | cast
deriving DecidableEq, Repr

/-- The place of an operation among all, from the loosest one on. -/
def Precedence.rank : Precedence → Nat
  | .any => 0
  | .assignment => 1
  | .range => 2
  | .disjunction => 3
  | .conjunction => 4
  | .comparison => 5
  | .bitOr => 6
  | .bitXor => 7
  | .bitAnd => 8
  | .shift => 9
  | .sum => 10
  | .product => 11
  | .cast => 12

/-- What an expression is, as far as it matters for what may follow it and how it is written. -/
structure ExpressionForm where
  /-- It ends by itself: nothing has to part it from what follows. -/
  endsItself : Bool := false
  isRange : Bool := false
  /-- It is a path with fields in braces. -/
  isStructure : Bool := false
  /-- It is written as it is given. -/
  isVerbatim : Bool := false
  /-- Its leftmost operand is written as it is given, and attributes in front of it are not
  written.
  -/
  dropsAttributes : Bool := false
deriving DecidableEq, Repr

namespace ExpressionForm

/-- An expression that ends with a block of its own. -/
def block : ExpressionForm := { endsItself := true }

/-- An expression that is written as it is given. -/
def verbatim : ExpressionForm := { isVerbatim := true, dropsAttributes := true }

/-- An operation on a first operand. -/
def operation (first : ExpressionForm) : ExpressionForm :=
  { dropsAttributes := first.dropsAttributes }

end ExpressionForm

/-- A bound of a type. -/
inductive Bound where
  | lifetime
  | trait (isParenthesized : Bool)
deriving DecidableEq, Repr

/-- One of the bounds is a trait. -/
def Bound.hasTrait (bounds : List Bound) : Bool := bounds.any (· ≠ .lifetime)

/-- Readers for the parts of the grammar that stand inside of others. -/
structure Grammar where
  /-- A type. Bounds behind a plus sign belong to it where `allowPlus` says so. -/
  type (allowPlus : Bool) : Reader TypeShape
  /-- A bound of a type. -/
  bound (_ : Unit) : Reader Bound
  /-- The statements of a block, up to the end of its group. -/
  statements (_ : Unit) : Reader Unit
  /-- An expression. A path may have fields in braces where `allowFields` says so. -/
  expression (allowFields : Bool) : Reader ExpressionForm
  /-- An expression at the start of a statement, or as the body of an arm. -/
  leading (_ : Unit) : Reader ExpressionForm
  /-- An expression without binary operators. -/
  operand (allowFields : Bool) : Reader ExpressionForm
  /-- What follows the first operand of an expression, as far as it binds tightly enough. -/
  operations (allowFields : Bool) (least : Precedence) (first : ExpressionForm)
    : Reader ExpressionForm
  /-- A single pattern. -/
  pattern (_ : Unit) : Reader Unit
  /-- An item with its attributes. -/
  item (_ : Unit) : Reader Unit

namespace Grammar

variable (g : Grammar)

/-- A block of statements in braces. -/
def block : Reader Unit := group .brace (g.statements ())

/-- A block of statements in braces, which may start with attributes of what the block is for. -/
def attributedBlock : Reader (List Attribute) :=
  group .brace do
    let found ← innerAttributes
    g.statements ()
    return found

end Grammar

end NestedSelect.Declaration
