import NestedSelect.Proofs.Declaration.BlindExpressions
/-!
The grammar of items and statements is blind to positions, and so is the whole grammar.
-/

namespace NestedSelect.Declaration

open Reader

-- A reader with many branches takes a larger instance than usual, one for each of its parts.
set_option synthInstance.maxSize 100000000

-----------------------------------------------------------------------------------------
-- Visibility and imports
-----------------------------------------------------------------------------------------

instance : Blind nextRestriction := by unfold nextRestriction; infer_instance
instance : Blind nextPathRestriction := by unfold nextPathRestriction; infer_instance
instance : visibility.IsBlind := by unfold visibility; infer_instance
instance : importedName.IsBlind := by unfold importedName; infer_instance

instance (subtree : Reader Unit) [subtree.IsBlind] : (importsOver subtree).IsBlind := by
  unfold importsOver; infer_instance

/-- Imports are blind to positions, by induction over how deep they stand inside of each other. -/
instance (depth : Nat) : (importsOfDepth depth).IsBlind := by
  induction depth with
  | zero => unfold importsOfDepth; infer_instance
  | succ depth ih => unfold importsOfDepth; infer_instance

instance : imports.IsBlind := by unfold imports; infer_instance

-----------------------------------------------------------------------------------------
-- Signatures
-----------------------------------------------------------------------------------------

instance : receiverStart.IsBlind := by unfold receiverStart; infer_instance

instance : Placed SignatureArguments where
  unplaced arguments :=
    ⟨unplaced arguments.first, unplaced arguments.dots, arguments.count, arguments.hasReceiver⟩

instance (first' first dots' dots : Option Position) (count : Nat) (hasReceiver : Bool)
    [same : Unplaces first' first] [also : Unplaces dots' dots]
    : Unplaces (⟨first', dots', count, hasReceiver⟩ : SignatureArguments)
        ⟨first, dots, count, hasReceiver⟩ := by
  rw [same.eq, also.eq]
  exact ⟨rfl⟩

instance : Placed Signature where
  unplaced found :=
    ⟨found.name, unplaced found.firstArgument, unplaced found.dots, unplaced found.returns⟩

instance (arguments' arguments : SignatureArguments) [same : Unplaces arguments' arguments]
    : Mirrors (receiver arguments') (receiver arguments) := by
  have blind : (receiver arguments).IsBlind := by unfold receiver; infer_instance
  rw [same.eq]
  exact blind

namespace Grammar

variable (g : Grammar) [g.IsBlind]

instance : g.typedArgument.IsBlind := by unfold typedArgument; infer_instance

instance (arguments : SignatureArguments)
    : Mirrors (g.signatureArgument (unplaced arguments)) (g.signatureArgument arguments) := by
  obtain ⟨first, dots, count, hasReceiver⟩ := arguments
  change Mirrors (g.signatureArgument ⟨unplaced first, unplaced dots, count, hasReceiver⟩) _
  unfold signatureArgument
  infer_instance

instance : g.signatureArguments.IsBlind := by
  unfold signatureArguments
  exact .iterate (fun arguments => inferInstance) ({} : SignatureArguments)

instance : qualifiers.IsBlind := by unfold qualifiers; infer_instance

instance : g.signature.IsBlind := by
  unfold signature
  refine .bind inferInstance fun _ => .bind inferInstance fun _ =>
    .bind_placeless inferInstance fun name => .bind inferInstance fun _ =>
    .bind inferInstance fun arguments => .bind inferInstance fun returns => ?_
  exact .bind inferInstance fun _ => .pure rfl

end Grammar

-----------------------------------------------------------------------------------------
-- Definitions of types
-----------------------------------------------------------------------------------------

instance : Blind nextUnnamedFields := by unfold nextUnnamedFields; infer_instance

namespace Grammar

variable (g : Grammar) [g.IsBlind]

instance (fields : Reader Unit) [fields.IsBlind] : (g.namedFieldOver fields).IsBlind := by
  unfold namedFieldOver; infer_instance

/-- Fields are blind to positions, by induction over how deep they stand inside of each other. -/
instance (depth : Nat) : (g.namedFieldsOfDepth depth).IsBlind := by
  induction depth with
  | zero => unfold namedFieldsOfDepth; infer_instance
  | succ depth ih => unfold namedFieldsOfDepth; infer_instance

instance : g.namedFields.IsBlind := by unfold namedFields; infer_instance
instance : g.numberedFieldTypes.IsBlind := by unfold numberedFieldTypes; infer_instance
instance : g.structureEnd.IsBlind := by unfold structureEnd; infer_instance
instance : g.structureBody.IsBlind := by unfold structureBody; infer_instance
instance : g.enumerationCase.IsBlind := by unfold enumerationCase; infer_instance
instance (mark : String) : (g.heading mark).IsBlind := by unfold heading; infer_instance
instance : g.structureItem.IsBlind := by unfold structureItem; infer_instance
instance : g.unionItem.IsBlind := by unfold unionItem; infer_instance
instance : g.enumerationItem.IsBlind := by unfold enumerationItem; infer_instance

end Grammar

-----------------------------------------------------------------------------------------
-- Items
-----------------------------------------------------------------------------------------

instance : Blind skipQualifiers where
  commutes tokens := by
    simp only [skipQualifiers, Blind.same (nextWord _), Blind.same nextText, drop_unplaced,
      ← apply_ite unplaced]

instance : Blind nextFunction where
  commutes tokens := by
    rw [nextFunction, Blind.apply skipQualifiers, Blind.same (nextWord _)]
    rfl

instance : Blind nextMacroPath := by unfold nextMacroPath; infer_instance
instance : Blind nextAutoTrait := by unfold nextAutoTrait; infer_instance
instance (hasName : Bool) : (macroItem hasName).IsBlind := by unfold macroItem; infer_instance

instance (item : Reader Unit) [item.IsBlind] : (itemBlock item).IsBlind := by
  unfold itemBlock; infer_instance

namespace Grammar

variable (g : Grammar) [g.IsBlind]

instance : g.assignedValue.IsBlind := by unfold assignedValue; infer_instance

instance (ends : Lookahead) [Blind ends] : (g.colonBounds ends).IsBlind := by
  unfold colonBounds; infer_instance

instance (place : ClausePlace) : (g.aliasItem place).IsBlind := by unfold aliasItem; infer_instance
instance : g.functionItem.IsBlind := by unfold functionItem; infer_instance
instance : g.foreignItem.IsBlind := by unfold foreignItem; infer_instance
instance : g.foreignItems.IsBlind := by unfold foreignItems; infer_instance
instance : g.traitConstant.IsBlind := by unfold traitConstant; infer_instance
instance : g.functionEnd.IsBlind := by unfold functionEnd; infer_instance
instance : g.traitItem.IsBlind := by unfold traitItem; infer_instance
instance : g.traitBody.IsBlind := by unfold traitBody; infer_instance
instance : g.traitOrAlias.IsBlind := by unfold traitOrAlias; infer_instance
instance : g.markedTrait.IsBlind := by unfold markedTrait; infer_instance
instance : g.implementationItem.IsBlind := by unfold implementationItem; infer_instance

instance : Blind nextImplementationGenerics := by
  unfold nextImplementationGenerics; dsimp only; infer_instance

instance : g.implementation.IsBlind := by
  have told (isConstant isForTrait : Bool) (first : TypeShape)
      : Unplaces
          (isConstant
            || isForTrait && !(match unplaced first with | .named .. => true | _ => false))
          (isConstant || isForTrait && !(match first with | .named .. => true | _ => false)) := by
    cases first <;> exact ⟨rfl⟩
  unfold implementation
  infer_instance

instance : crateItem.IsBlind := by unfold crateItem; infer_instance
instance : g.staticItem.IsBlind := by unfold staticItem; infer_instance
instance : g.constantItem.IsBlind := by unfold constantItem; infer_instance
instance : g.moduleItem.IsBlind := by unfold moduleItem; infer_instance
instance : g.existentialItem.IsBlind := by unfold existentialItem; infer_instance
instance : macroDefinition.IsBlind := by unfold macroDefinition; infer_instance

instance (hasVisibility : Bool) : (g.unsafeItem hasVisibility).IsBlind := by
  unfold unsafeItem; infer_instance

instance (hasVisibility : Bool) : (g.externItem hasVisibility).IsBlind := by
  unfold externItem
  extract_lets convention
  have blind : Blind fun tokens : List Token => nextGroup .brace (convention (tokens.drop 1)) :=
    ⟨fun tokens => by
      simp only [convention, drop_unplaced, Blind.same nextText, ← apply_ite unplaced,
        Blind.same (nextGroup _), Placeless.unplaced_eq]⟩
  infer_instance

instance (hasVisibility : Bool) : Blind (itemStarts hasVisibility) where
  commutes tokens := by
    simp only [itemStarts, Blind.same (nextWord _), Placeless.unplaced_eq]

instance (hasVisibility : Bool) : (g.itemBehind hasVisibility).IsBlind := by
  unfold itemBehind; infer_instance

instance : g.bareItem.IsBlind := by unfold bareItem; infer_instance
instance : g.readItem.IsBlind := by unfold readItem; infer_instance

end Grammar

-----------------------------------------------------------------------------------------
-- Statements
-----------------------------------------------------------------------------------------

instance : Blind nextItem := by unfold nextItem; infer_instance
instance : Blind nextMacroStatement := by unfold nextMacroStatement; infer_instance
instance : macroStatementPath.IsBlind := by unfold macroStatementPath; infer_instance
instance : macroStatementBehind.IsBlind := by unfold macroStatementBehind; infer_instance

namespace Grammar

variable (g : Grammar) [g.IsBlind]

instance : g.localVariable.IsBlind := by unfold localVariable; infer_instance

instance (added : Record)
    : Mirrors (g.expressionStatement (unplaced added)) (g.expressionStatement added) := by
  unfold expressionStatement; infer_instance

instance : g.statement.IsBlind := by unfold statement; infer_instance
instance : g.readStatements.IsBlind := by unfold readStatements; infer_instance

end Grammar

-----------------------------------------------------------------------------------------
-- The whole grammar
-----------------------------------------------------------------------------------------

/-- The whole grammar is blind to positions, by induction over how deep parts of it stand inside of
each other.
-/
instance (depth : Nat) : (Grammar.ofDepth depth).IsBlind := by
  induction depth with
  | zero =>
      have nothing {α : Type} [Placed α] : (failMissingOf [] : Reader α).IsBlind := inferInstance
      exact
        { type := fun _ => nothing
          bound := nothing
          statements := nothing
          expression := fun _ => nothing
          leading := nothing
          operand := fun _ => nothing
          operations := fun _ _ _ => nothing
          pattern := nothing
          item := nothing }
  | succ depth ih =>
      have inside {α : Type} [Placed α] (reader : Reader α) [reader.IsBlind]
          : (delay fun _ => reader).IsBlind := inferInstance
      exact
        { type := fun _ => inside _
          bound := inside _
          statements := inside _
          expression := fun _ => inside _
          leading := inside _
          operand := fun _ => inside _
          operations := fun _ _ _ => inside _
          pattern := inside _
          item := inside _ }

instance {α : Type} [Placed α] (reader : Grammar → Reader α)
    [inside : ∀ depth, (reader (.ofDepth depth)).IsBlind]
    : (withGrammar reader).IsBlind := by
  unfold withGrammar; infer_instance

end NestedSelect.Declaration
