import NestedSelect.Declaration.Position
/-!
What can be wrong with a declaration, and where. Some faults concern the text of a declaration,
others the meaning of a single member.
-/

namespace NestedSelect.Declaration

/-- What can be wrong with a declaration. -/
inductive Fault where
  /-- Another token stands in the place of what is expected. -/
  | expected (what : String)
  /-- No token is left where something is expected. -/
  | exhausted (what : String)
  /-- Something else comes next than what may stand here. -/
  | unexpectedToken
  /-- No token is left where something has to follow. -/
  | unexpectedEnd
  /-- An operation that binds more tightly stands behind a type. -/
  | castFollowed (what : String)
  /-- A field is named by a number with too many digits. -/
  | numberTooLarge
  /-- A field is named by a negative number. -/
  | invalidDigit
  /-- An argument list names its receiver twice. -/
  | secondReceiver
  /-- The receiver is not the first argument. -/
  | misplacedReceiver
  /-- An object type has lifetimes for bounds and no trait. -/
  | missingObjectTrait
  /-- An abstract type has lifetimes for bounds and no trait. -/
  | missingAbstractTrait
  | unrecognizedAttribute
  /-- Arguments where there must be none, of a flag or of a member. -/
  | argumentsGiven
  | returnTypeMissing
  | notAPath
  | embedAndForeign
  | embeddedSlice
  /-- The other table references this one, so any number of rows belong to it. -/
  | sliceMissing
  /-- This table references the other one, so only one row belongs to it. -/
  | sliceGiven
  | columnSlice
  | keyNotAColumn
  | renamedNotAColumn
  | secondPrimaryKey
  | referencedColumnsGiven
  | selfReferencesSelf
  | selfMissing
  | foreignKeyCount
deriving DecidableEq, Repr

/-- What is said about a fault. -/
def Fault.message : Fault → String
  | .expected what => "expected " ++ what
  | .exhausted what => "unexpected end of input, expected " ++ what
  | .unexpectedToken => "unexpected token"
  | .unexpectedEnd => "unexpected end of input"
  | .castFollowed what => "casts cannot be followed by " ++ what
  | .numberTooLarge => "number too large to fit in target type"
  | .invalidDigit => "invalid digit found in string"
  | .secondReceiver => "unexpected second method receiver"
  | .misplacedReceiver => "unexpected method receiver"
  | .missingObjectTrait => "at least one trait is required for an object type"
  | .missingAbstractTrait => "at least one trait must be specified"
  | .unrecognizedAttribute => "Unrecognized attribute"
  | .argumentsGiven => "Expected no arguments"
  | .returnTypeMissing => "Expected return type"
  | .notAPath => "Expected simple Path-like type"
  | .embedAndForeign => "A member cannot be both #[embed] and #[foreign]"
  | .embeddedSlice => "An embedded fragment must not be a slice"
  | .sliceMissing => "Expected a slice, the foreign table references Self"
  | .sliceGiven => "Expected a unit type, Self references the foreign table"
  | .columnSlice => "A column must not be a slice"
  | .keyNotAColumn => "Only a column can be a primary key"
  | .renamedNotAColumn => "Only a column can be renamed"
  | .secondPrimaryKey => "Only one primary key is supported"
  | .referencedColumnsGiven =>
    "The referenced side is joined through its primary key, remove its columns"
  | .selfReferencesSelf => "Name the table explicitly on one side instead of Self => Self"
  | .selfMissing => "No Self found"
  | .foreignKeyCount => "Must specify exactly one foreign key column"

/-- A fault together with its place in the text. -/
structure Diagnostic where
  fault : Fault
  position : Position
deriving DecidableEq, Repr

end NestedSelect.Declaration
