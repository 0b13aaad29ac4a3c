import NestedSelect.Proofs.Declaration.BlindReaders
/-!
The grammar of types, patterns and what they are made of is blind to positions. A grammar is blind
if its readers for parts inside of other parts are, and then so are the readers of larger parts.
-/

namespace NestedSelect.Declaration

open Reader

-- A reader with many branches takes a larger instance than usual, one for each of its parts.
set_option synthInstance.maxSize 100000000

-----------------------------------------------------------------------------------------
-- Types and paths
-----------------------------------------------------------------------------------------

instance : Placed Path := ⟨fun path => ⟨path.name, unplaced path.tokens, .start⟩⟩

/-- A type without its positions. -/
def TypeShape.unplaced : TypeShape → TypeShape
  | .named path isApplied => .named (Placed.unplaced path) isApplied
  | .slice _ element => .slice .start element.unplaced
  | .parenthesized _ => .parenthesized .start
  | .object _ single => .object .start single
  | .other _ => .other .start

instance : Placed TypeShape := ⟨TypeShape.unplaced⟩

section

variable (position : Position)

@[simp]
theorem unplaced_named (path : Path) (isApplied : Bool)
    : unplaced (TypeShape.named path isApplied) = .named (unplaced path) isApplied := rfl

@[simp]
theorem unplaced_slice (element : TypeShape)
    : unplaced (TypeShape.slice position element) = .slice .start (unplaced element) := rfl

@[simp]
theorem unplaced_parenthesized
    : unplaced (TypeShape.parenthesized position) = .parenthesized .start := rfl

@[simp]
theorem unplaced_object (single : Option Bool)
    : unplaced (TypeShape.object position single) = .object .start single := rfl

@[simp]
theorem unplaced_other : unplaced (TypeShape.other position) = .other .start := rfl

end

instance : Placed TypeForm where
  unplaced
    | .slice element => .slice (unplaced element)
    | form => form

instance : Placed ParenthesizedTypes where
  unplaced
    | .single element => .single (unplaced element)
    | types => types

instance : Unplaces TypeForm.other .other := ⟨rfl⟩
instance : Unplaces TypeForm.verbatim .verbatim := ⟨rfl⟩
instance : Unplaces TypeForm.parenthesized .parenthesized := ⟨rfl⟩
instance (route : Route) : Unplaces (TypeForm.route route) (.route route) := ⟨rfl⟩
instance (single : Option Bool) : Unplaces (TypeForm.object single) (.object single) := ⟨rfl⟩

instance (element : TypeShape) : Unplaces (TypeForm.slice (unplaced element)) (.slice element) :=
  ⟨rfl⟩

instance (bounds : List Bound) (hasTrailing : Bool)
    : Unplaces (TypeForm.ofBounds bounds hasTrailing) (.ofBounds bounds hasTrailing) := by
  unfold TypeForm.ofBounds
  split <;> infer_instance

instance : Blind TypeForm.isVerbatim where
  commutes form := by cases form <;> rfl

/-- The shape of a type is the same without positions. -/
theorem TypeForm.shape_unplaced (form : TypeForm) (position : Position) (record : Record)
    : (Placed.unplaced form).shape (Placed.unplaced position) (Placed.unplaced record)
        = Placed.unplaced (form.shape position record) := by
  cases form with
  | route found =>
      change (if _ then _ else _) = Placed.unplaced (if _ then _ else _)
      rw [apply_ite Placed.unplaced]
      rfl
  | slice | parenthesized | object | other | verbatim => rfl

instance : Unplaces ParenthesizedTypes.tuple .tuple := ⟨rfl⟩
instance : Unplaces ParenthesizedTypes.lifetimes .lifetimes := ⟨rfl⟩
instance : Unplaces ParenthesizedTypes.optional .optional := ⟨rfl⟩

instance (element : TypeShape)
    : Unplaces (ParenthesizedTypes.single (unplaced element)) (.single element) :=
  ⟨rfl⟩

/-- A grammar that makes no difference between positions. -/
class Grammar.IsBlind (g : Grammar) : Prop where
  type : ∀ allowPlus, (g.type allowPlus).IsBlind
  bound : (g.bound ()).IsBlind
  statements : (g.statements ()).IsBlind
  expression : ∀ allowFields, (g.expression allowFields).IsBlind
  leading : (g.leading ()).IsBlind
  operand : ∀ allowFields, (g.operand allowFields).IsBlind
  operations : ∀ allowFields least first, (g.operations allowFields least first).IsBlind
  pattern : (g.pattern ()).IsBlind
  item : (g.item ()).IsBlind

namespace Grammar

variable (g : Grammar) [blind : g.IsBlind]

instance (allowPlus : Bool) : (g.type allowPlus).IsBlind := blind.type allowPlus
instance : (g.bound ()).IsBlind := blind.bound
instance : (g.statements ()).IsBlind := blind.statements
instance (allowFields : Bool) : (g.expression allowFields).IsBlind := blind.expression allowFields
instance : (g.leading ()).IsBlind := blind.leading
instance (allowFields : Bool) : (g.operand allowFields).IsBlind := blind.operand allowFields

instance (allowFields : Bool) (least : Precedence) (first : ExpressionForm)
    : (g.operations allowFields least first).IsBlind :=
  blind.operations allowFields least first

instance : (g.pattern ()).IsBlind := blind.pattern
instance : (g.item ()).IsBlind := blind.item

end Grammar

-----------------------------------------------------------------------------------------
-- Blocks
-----------------------------------------------------------------------------------------

namespace Grammar

variable (g : Grammar) [g.IsBlind]

instance : g.block.IsBlind := by unfold block; infer_instance
instance : g.attributedBlock.IsBlind := by unfold attributedBlock; infer_instance

end Grammar

-----------------------------------------------------------------------------------------
-- Paths
-----------------------------------------------------------------------------------------

instance : Blind nextMacroMark := by unfold nextMacroMark; infer_instance
instance : Blind nextSingleColon := by unfold nextSingleColon; infer_instance

instance (inExpression : Bool) : Blind (nextArguments inExpression) := by
  unfold nextArguments; infer_instance

instance : Blind nextParenthesized := by unfold nextParenthesized; infer_instance

namespace Grammar

variable (g : Grammar) [g.IsBlind]

instance : g.constant.IsBlind := by unfold constant; infer_instance
instance : g.defaultConstant.IsBlind := by unfold defaultConstant; infer_instance
instance : g.boundValue.IsBlind := by unfold boundValue; infer_instance
instance : g.constraintBounds.IsBlind := by unfold constraintBounds; infer_instance

instance : g.typeArgument.IsBlind := by
  unfold typeArgument
  refine .bind_placeless (.verbatimIf (.bind inferInstance fun found => ?_)) fun _ => inferInstance
  rcases found with ⟨path, _ | _⟩ | _ | _ | _ | _ <;> dsimp <;> infer_instance

instance : g.argument.IsBlind := by unfold argument; infer_instance

instance : g.angleArguments.IsBlind := by
  unfold angleArguments
  refine .bind_placeless inferInstance fun _ => .bind inferInstance fun _ =>
    .bind inferInstance fun arguments => ?_
  rw [isEmpty_unplaced]
  infer_instance

instance (inExpression : Bool) : (g.segment inExpression).IsBlind := by
  unfold segment; infer_instance

instance (inExpression : Bool) (route : Route)
    : (g.furtherSegments inExpression route).IsBlind := by
  unfold furtherSegments; infer_instance

instance (inExpression : Bool) : (g.namedRoute inExpression).IsBlind := by
  unfold namedRoute; infer_instance

instance (inExpression : Bool) : (g.qualifiedRoute inExpression).IsBlind := by
  unfold qualifiedRoute; infer_instance

instance (inExpression : Bool) : (g.route inExpression).IsBlind := by unfold route; infer_instance

instance : g.path.IsBlind := by
  unfold path
  refine .bind inferInstance fun position => .bind inferInstance fun (route, record) => ?_
  exact .bind inferInstance fun _ => .pure rfl

instance (allowPlus : Bool) : (g.returnType allowPlus).IsBlind := by
  unfold returnType; infer_instance

instance (route : Route) : (g.parenthesizedArguments route).IsBlind := by
  unfold parenthesizedArguments
  cases route.last.arguments <;> infer_instance

instance : g.typeRoute.IsBlind := by
  unfold typeRoute
  extract_lets step
  have each (route : Route) : (step route).IsBlind := by
    unfold step
    refine .bind_placeless inferInstance fun isNext => ?_
    split
    case isFalse => infer_instance
    case isTrue =>
      refine .bind inferInstance fun found => ?_
      rcases found with _ | _ | _ | _ | _ | _ <;> dsimp <;> infer_instance
  infer_instance

end Grammar

-----------------------------------------------------------------------------------------
-- Bounds
-----------------------------------------------------------------------------------------

instance : Blind nextBound := by unfold nextBound; infer_instance
instance : lifetimeParameter.IsBlind := by unfold lifetimeParameter; infer_instance
instance : forLifetimes.IsBlind := by unfold forLifetimes; infer_instance

namespace Grammar

variable (g : Grammar) [g.IsBlind]

instance : g.traitBound.IsBlind := by unfold traitBound; infer_instance
instance : g.readBound.IsBlind := by unfold readBound; infer_instance

instance (bounds : List Bound) : (g.furtherBounds bounds).IsBlind := by
  unfold furtherBounds; infer_instance

instance (allowPlus : Bool) : (g.bounds allowPlus).IsBlind := by unfold bounds; infer_instance

instance (allowPlus : Bool) (fault : Fault) : (g.traitBounds allowPlus fault).IsBlind := by
  unfold traitBounds; infer_instance

end Grammar

-----------------------------------------------------------------------------------------
-- Types
-----------------------------------------------------------------------------------------

instance : Blind nextFunctionType := by unfold nextFunctionType; infer_instance
instance : Blind nextNamedType := by unfold nextNamedType; infer_instance
instance : convention.IsBlind := by unfold convention; infer_instance
instance : functionArgumentName.IsBlind := by unfold functionArgumentName; infer_instance

namespace Grammar

variable (g : Grammar) [g.IsBlind]

instance : g.functionArgument.IsBlind := by unfold functionArgument; infer_instance
instance : g.functionArguments.IsBlind := by unfold functionArguments; infer_instance
instance : g.functionType.IsBlind := by unfold functionType; infer_instance

instance (allowPlus isQuantified : Bool) : (g.namedType allowPlus isQuantified).IsBlind := by
  unfold namedType; infer_instance

instance (allowPlus : Bool) : (g.markedObject allowPlus).IsBlind := by
  unfold markedObject; infer_instance

instance : g.parenthesizedTypes.IsBlind := by unfold parenthesizedTypes; infer_instance
instance (first : Bound) : (g.boundsBehind first).IsBlind := by unfold boundsBehind; infer_instance

instance (allowPlus : Bool) (types : ParenthesizedTypes)
    : Mirrors (g.behindParentheses allowPlus (unplaced types))
        (g.behindParentheses allowPlus types) := by
  cases types with
  | tuple => exact inferInstanceAs (Reader.IsBlind (pure TypeForm.other))
  | lifetimes => exact inferInstanceAs (Reader.IsBlind (pure TypeForm.parenthesized))
  | optional => exact inferInstanceAs (g.boundsBehind (.trait true)).IsBlind
  | single element =>
      have shortened : Blind fun tokens : List Token => (tokens.drop 1).dropLast :=
        ⟨fun tokens => by simp [List.dropLast_eq_take]⟩
      change Mirrors (g.behindParentheses allowPlus (.single (unplaced element))) _
      unfold behindParentheses
      rcases element with _ | _ | _ | ⟨_, _ | _ | _⟩ | _ <;> dsimp <;> infer_instance

instance : g.bracketedType.IsBlind := by unfold bracketedType; infer_instance

instance (allowPlus : Bool) : (g.quantifiedType allowPlus).IsBlind := by
  unfold quantifiedType; infer_instance

instance : g.pointedType.IsBlind := by unfold pointedType; infer_instance
instance : g.pointer.IsBlind := by unfold pointer; infer_instance
instance : g.reference.IsBlind := by unfold reference; infer_instance

instance (allowPlus : Bool) : (g.abstractType allowPlus).IsBlind := by
  unfold abstractType; infer_instance

instance : g.lifetimeObject.IsBlind := by unfold lifetimeObject; infer_instance
instance (allowPlus : Bool) : (g.typeForm allowPlus).IsBlind := by unfold typeForm; infer_instance

instance (allowPlus : Bool) : (g.readType allowPlus).IsBlind := by
  unfold readType
  refine .bind inferInstance fun position => .bind inferInstance fun (form, record) => ?_
  exact .bind inferInstance fun _ => .pure (form.shape_unplaced position record)

end Grammar

-----------------------------------------------------------------------------------------
-- Generic parameters
-----------------------------------------------------------------------------------------

instance : Blind endsClause := by unfold endsClause; infer_instance
instance : Blind endsLifetimeClause := by unfold endsLifetimeClause; infer_instance
instance : Blind endsParameter := by unfold endsParameter; infer_instance

namespace Grammar

variable (g : Grammar) [g.IsBlind]

instance : g.parameterBound.IsBlind := by unfold parameterBound; infer_instance

instance (hasColon : Bool) : (g.parameterBounds hasColon).IsBlind := by
  unfold parameterBounds; infer_instance

instance : g.typeParameter.IsBlind := by unfold typeParameter; infer_instance
instance : g.constantParameter.IsBlind := by unfold constantParameter; infer_instance
instance : g.genericParameter.IsBlind := by unfold genericParameter; infer_instance
instance : g.genericParameters.IsBlind := by unfold genericParameters; infer_instance

instance : g.generics.IsBlind := by
  unfold generics
  refine .bind_placeless inferInstance fun isNext => ?_
  split
  case isFalse => infer_instance
  case isTrue =>
    refine .bind inferInstance fun (parameters, record) => ?_
    simp only [unplaced_pair, isEmpty_unplaced]
    infer_instance

instance : g.predicate.IsBlind := by unfold predicate; infer_instance
instance : g.whereClause.IsBlind := by unfold whereClause; infer_instance

end Grammar

-----------------------------------------------------------------------------------------
-- Operators
-----------------------------------------------------------------------------------------

instance : Blind nextOperator where
  commutes tokens := by
    simp only [nextOperator, Blind.same (nextMarks _), Placeless.unplaced_eq]

instance : Blind nextAssignment := by unfold nextAssignment; infer_instance

instance : Blind nextPrecedence where
  commutes tokens := by
    simp only [nextPrecedence, Blind.same nextOperator, Blind.same (nextMark _),
      Blind.same (nextMarks _), Blind.same (nextWord _), Blind.same nextSingleColon,
      Placeless.unplaced_eq]

instance : rangeDots.IsBlind := by unfold rangeDots; infer_instance
instance : Blind nextSingleDot := by unfold nextSingleDot; infer_instance
instance (number : Nat) : (writeNumber number).IsBlind := by unfold writeNumber; infer_instance
instance : numberedField.IsBlind := by unfold numberedField; infer_instance
instance : member.IsBlind := by unfold member; infer_instance
instance : numberedFields.IsBlind := by unfold numberedFields; infer_instance

-----------------------------------------------------------------------------------------
-- Patterns
-----------------------------------------------------------------------------------------

instance : Blind nextRoute := by unfold nextRoute; infer_instance
instance : Blind nextOpenRange := by unfold nextOpenRange; dsimp only; infer_instance
instance : Blind nextRoutePattern := by unfold nextRoutePattern; infer_instance
instance : Blind nextAlternative := by unfold nextAlternative; infer_instance
instance : Blind endsRangePattern := by unfold endsRangePattern; infer_instance

namespace Grammar

variable (g : Grammar) [g.IsBlind]

instance : g.constantBlock.IsBlind := by unfold constantBlock; infer_instance
instance : g.rangeBound.IsBlind := by unfold rangeBound; infer_instance
instance : g.upperBound.IsBlind := by unfold upperBound; infer_instance
instance : g.rangeBehind.IsBlind := by unfold rangeBehind; infer_instance
instance : g.upwardRange.IsBlind := by unfold upwardRange; infer_instance
instance : g.alternatives.IsBlind := by unfold alternatives; infer_instance
instance : g.alternativesWithBar.IsBlind := by unfold alternativesWithBar; infer_instance

instance (name' name : List Token) [Unplaces name' name]
    : Mirrors (g.fieldBehind name') (g.fieldBehind name) := by
  unfold fieldBehind; infer_instance

instance : g.fieldPattern.IsBlind := by unfold fieldPattern; infer_instance
instance : g.fieldPatterns.IsBlind := by unfold fieldPatterns; infer_instance
instance : g.patterns.IsBlind := by unfold patterns; infer_instance
instance : g.routePattern.IsBlind := by unfold routePattern; infer_instance
instance : g.literalPattern.IsBlind := by unfold literalPattern; infer_instance
instance : g.namePattern.IsBlind := by unfold namePattern; infer_instance
instance : g.referencePattern.IsBlind := by unfold referencePattern; infer_instance
instance : g.readPattern.IsBlind := by unfold readPattern; infer_instance

end Grammar

end NestedSelect.Declaration
