import NestedSelect.Declaration.Grammar.Statement
/-!
The whole grammar. Its parts stand inside of each other up to a depth, and every further part
inside of another one takes a token of its own, so that a depth that grows with the number of
tokens is never used up.
-/

namespace NestedSelect.Declaration

open Reader

namespace Grammar

/-- The grammar in which nothing can be read. -/
def empty : Grammar where
  type _ := failMissingOf []
  bound _ := failMissingOf []
  statements _ := failMissingOf []
  expression _ := failMissingOf []
  leading _ := failMissingOf []
  operand _ := failMissingOf []
  operations _ _ _ := failMissingOf []
  pattern _ := failMissingOf []
  item _ := failMissingOf []

/-- The grammar with parts inside of each other up to a depth. -/
def ofDepth : Nat → Grammar
  | 0 => empty
  | depth + 1 =>
    { type := fun allowPlus => delay fun _ => (ofDepth depth).readType allowPlus
      bound := fun _ => delay fun _ => (ofDepth depth).readBound
      statements := fun _ => delay fun _ => (ofDepth depth).readStatements
      expression := fun allowFields => delay fun _ => (ofDepth depth).readExpression allowFields
      leading := fun _ => delay fun _ => (ofDepth depth).readLeading
      operand := fun allowFields => delay fun _ => (ofDepth depth).readOperand allowFields
      operations := fun allowFields least first =>
        delay fun _ => (ofDepth depth).readOperations allowFields least first
      pattern := fun _ => delay fun _ => (ofDepth depth).readPattern
      item := fun _ => delay fun _ => (ofDepth depth).readItem }

end Grammar

/-- Read with a grammar that is deep enough for all tokens that are left. -/
def withGrammar {α : Type} (reader : Grammar → Reader α) : Reader α := do
  reader (.ofDepth (8 * ((← remaining) + 1)))

end NestedSelect.Declaration
