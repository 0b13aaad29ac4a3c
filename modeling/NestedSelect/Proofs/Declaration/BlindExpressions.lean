import NestedSelect.Proofs.Declaration.BlindTypes
/-!
The grammar of expressions is blind to positions: what follows an operand, how tightly it is tied to
that and what may not follow a cast is told from tokens alone.
-/

namespace NestedSelect.Declaration

open Reader

-- A reader with many branches takes a larger instance than usual, one for each of its parts.
set_option synthInstance.maxSize 100000000

-----------------------------------------------------------------------------------------
-- Accesses, blocks and operands
-----------------------------------------------------------------------------------------

instance : Blind nextForLifetimes := by unfold nextForLifetimes; infer_instance
instance : Blind nextClosure := by unfold nextClosure; infer_instance
instance : Blind nextAsyncBlock := by unfold nextAsyncBlock; infer_instance
instance : Blind nextTryBlock := by unfold nextTryBlock; infer_instance
instance : Blind endsOperand := by unfold endsOperand; infer_instance
instance (allowFields : Bool) : Blind (endsRange allowFields) := by unfold endsRange; infer_instance
instance : Blind castFault? := by unfold castFault?; infer_instance

namespace Grammar

variable (g : Grammar) [g.IsBlind]

instance : g.expressions.IsBlind := by unfold expressions; infer_instance
instance : g.methodArgument.IsBlind := by unfold methodArgument; infer_instance
instance : g.methodArguments.IsBlind := by unfold methodArguments; infer_instance
instance : g.memberAccess.IsBlind := by unfold memberAccess; infer_instance
instance : g.dotAccess.IsBlind := by unfold dotAccess; infer_instance
instance (form : ExpressionForm) : (g.accesses form).IsBlind := by unfold accesses; infer_instance
instance : label.IsBlind := by unfold label; infer_instance
instance : g.condition.IsBlind := by unfold condition; infer_instance
instance : g.elseIf.IsBlind := by unfold elseIf; infer_instance
instance : g.conditional.IsBlind := by unfold conditional; infer_instance
instance : g.whileLoop.IsBlind := by unfold whileLoop; infer_instance
instance : g.forLoop.IsBlind := by unfold forLoop; infer_instance
instance : g.loop.IsBlind := by unfold loop; infer_instance
instance (mark : String) : (g.markedBlock mark).IsBlind := by unfold markedBlock; infer_instance
instance : g.asyncBlock.IsBlind := by unfold asyncBlock; infer_instance
instance : g.tryBlock.IsBlind := by unfold tryBlock; infer_instance
instance : g.parenthesized.IsBlind := by unfold parenthesized; infer_instance
instance : g.array.IsBlind := by unfold array; infer_instance
instance : g.fieldValue.IsBlind := by unfold fieldValue; infer_instance
instance : g.fieldValues.IsBlind := by unfold fieldValues; infer_instance

instance (allowFields : Bool) : (g.routeOperand allowFields).IsBlind := by
  unfold routeOperand; infer_instance

instance : g.closureParameter.IsBlind := by unfold closureParameter; infer_instance
instance (allowFields : Bool) : (g.closure allowFields).IsBlind := by unfold closure; infer_instance

instance (ends : Lookahead) [Blind ends] (allowFields : Bool)
    : (g.taken ends allowFields).IsBlind := by
  unfold taken; infer_instance

instance (allowFields : Bool) : (g.breakOperand allowFields).IsBlind := by
  unfold breakOperand; infer_instance

instance (allowFields : Bool) : (g.letOperand allowFields).IsBlind := by
  unfold letOperand; infer_instance

instance (allowFields : Bool) : (g.upwardOperand allowFields).IsBlind := by
  unfold upwardOperand; infer_instance

instance : g.labelled.IsBlind := by unfold labelled; infer_instance

end Grammar

-----------------------------------------------------------------------------------------
-- Operations
-----------------------------------------------------------------------------------------

namespace Grammar

variable (g : Grammar) [g.IsBlind]

instance : g.arm.IsBlind := by unfold arm; infer_instance
instance : g.caseDistinction.IsBlind := by unfold caseDistinction; infer_instance
instance : g.blockOperand.IsBlind := by unfold blockOperand; infer_instance

instance (allowFields : Bool) : (g.plainOperand allowFields).IsBlind := by
  unfold plainOperand; infer_instance

instance (allowFields : Bool) : (g.referenceOperand allowFields).IsBlind := by
  unfold referenceOperand; infer_instance

instance (allowFields : Bool) : (g.readOperand allowFields).IsBlind := by
  unfold readOperand; infer_instance

instance (allowFields : Bool) (precedence : Precedence)
    : (g.secondOperand allowFields precedence).IsBlind := by
  unfold secondOperand; infer_instance

instance : g.castTarget.IsBlind := by unfold castTarget; infer_instance

instance (allowFields : Bool) (least : Precedence) (first : ExpressionForm)
    : (g.operation allowFields least first).IsBlind := by
  unfold operation
  extract_lets binds
  refine .bind_placeless inferInstance fun operator => ?_
  cases operator.filter (binds ·.2) <;> infer_instance

instance (allowFields : Bool) (least : Precedence) (first : ExpressionForm)
    : (g.readOperations allowFields least first).IsBlind := by
  unfold readOperations; infer_instance

instance (allowFields : Bool) : (g.readExpression allowFields).IsBlind := by
  unfold readExpression; infer_instance

instance : g.leadingOperand.IsBlind := by unfold leadingOperand; infer_instance
instance : g.readLeading.IsBlind := by unfold readLeading; infer_instance

end Grammar

end NestedSelect.Declaration
