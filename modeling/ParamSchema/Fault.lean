import ParamSchema.Value

/-!
Why a value is refused, or why a schema cannot check it.
-/

namespace ParamSchema

/-- Why a value is rejected. -/
inductive Reason
  /-- An array was due. -/
  | notArray
  /-- An object was due. -/
  | notObject
  /-- A field that may not be missing came to nothing. -/
  | required
  /-- A key that the node does not declare. -/
  | unexpected
  /-- The named rule is not met. -/
  | rule (name : String)
deriving DecidableEq

/-- The code of a reason: its own, or the rule's name. -/
def Reason.code : Reason → String
  | notArray => "NotArray"
  | notObject => "NotObject"
  | required => "Required"
  | unexpected => "Unexpected"
  | rule name => name

/-- What ends a check. -/
inductive Fault
  /-- The value of a field, if there is one, is rejected; under a rule, the field is the rule's
  name. -/
  | rejected (field : String) (value : Option Value) (reason : Reason)
  /-- The value does not have the type of its leaf. -/
  | invalidType (field : String) (value : Value) (typeName : String)
  /-- A leaf without a type. -/
  | missingType (field : String)
  /-- A rule that is not registered. -/
  | unknownRule (name : String)

/-- What a fault says to a program: its kind, the field, the value and the reason's code. -/
structure Diagnostic where
  kind : String
  field : String
  value : Option Value
  reason : String

namespace Fault

/-- The field, or the rule, that the fault is about. -/
def field : Fault → String
  | rejected field _ _ => field
  | invalidType field _ _ => field
  | missingType field => field
  | unknownRule name => name

/-- The code of the fault. -/
def code : Fault → String
  | rejected _ _ reason => reason.code
  | invalidType .. => "InvalidType"
  | missingType _ => "MissingType"
  | unknownRule _ => "UnknownRule"

/-- Whether the input is at fault and not the schema. -/
def isInputError : Fault → Bool
  | rejected .. | invalidType .. => true
  | missingType _ | unknownRule _ => false

/-- The text of a fault. -/
def message : Fault → String
  | rejected field _ reason => s!"validation failed: field '{field}' rejected: {reason.code}"
  | invalidType field _ typeName =>
    s!"invalid type: field '{field}' is not a valid {typeName}"
  | missingType field => s!"schema error: leaf field '{field}' has no type descriptor"
  | unknownRule name => s!"schema error: unknown rule '{name}'"

def diagnostic (fault : Fault) : Diagnostic where
  kind := match fault with
    | rejected .. => "validation"
    | invalidType .. => "invalid_type"
    | missingType _ | unknownRule _ => "schema"
  field := fault.field
  value := match fault with
    | rejected _ value _ => value
    | invalidType _ value _ => some value
    | missingType _ | unknownRule _ => none
  reason := fault.code

end Fault

/-- The diagnostic as an object. -/
def Diagnostic.toValue (d : Diagnostic) : Value :=
  .object ([("kind", .string d.kind), ("field", .string d.field)] ++
    (d.value.map fun v => ("value", v)).toList ++ [("reason", .string d.reason)])

end ParamSchema
