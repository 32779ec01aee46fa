import ParamSchema.Schema.Record

/-!
Node documents as written, before type names are resolved and rules are read.
-/

namespace ParamSchema

/-- The fields of a node document. -/
inductive NodeField
  | type | skip | multiple | object | format | acceptOtherKeys | acceptNull | defaultValue | trim
  | optional | validate
deriving DecidableEq

/-- A node document. -/
structure NodeSpec where
  type : Option String := none
  skip : Bool := false
  multiple : Bool := false
  object : Bool := false
  format : Option Members := none
  acceptOtherKeys : Bool := false
  acceptNull : Bool := false
  defaultValue : Option Value := none
  trim : Option Bool := none
  optional : Bool := false
  validate : Option Members := none

namespace NodeField

def all : List NodeField :=
  [type, skip, multiple, object, format, acceptOtherKeys, acceptNull, defaultValue, trim, optional,
    validate]

def name : NodeField → String
  | type => "type"
  | skip => "skip"
  | multiple => "multiple"
  | object => "object"
  | format => "format"
  | acceptOtherKeys => "acceptOtherKeys"
  | acceptNull => "acceptNull"
  | defaultValue => "defaultValue"
  | trim => "trim"
  | optional => "optional"
  | validate => "validate"

/-- The other key of the default. -/
def shortDefault : String := "default"

/-- The keys that a node document may have, in the order of its fields. -/
def keys : List String :=
  all.flatMap fun field =>
    if field = defaultValue then [shortDefault, field.name] else [field.name]

def ofKey? (key : String) : Option NodeField :=
  if key = shortDefault then some defaultValue else all.find? (·.name = key)

/-- Plain flags may be left out at the end of an array; every other field must be there. -/
def isFlag : NodeField → Bool
  | skip | multiple | object | acceptOtherKeys | acceptNull | optional => true
  | type | format | defaultValue | trim | validate => false

end NodeField

namespace NodeSpec

/-- Gives a field of a node document its value. -/
def set (spec : NodeSpec) (field : NodeField) (v : Value) : Except DecodeFault NodeSpec :=
  match field with
  | .type => do return { spec with type := ← v.asOptional Value.asString }
  | .skip => do return { spec with skip := ← v.asBool }
  | .multiple => do return { spec with multiple := ← v.asBool }
  | .object => do return { spec with object := ← v.asBool }
  | .format => do return { spec with format := ← v.asOptional Value.asMembers }
  | .acceptOtherKeys => do return { spec with acceptOtherKeys := ← v.asBool }
  | .acceptNull => do return { spec with acceptNull := ← v.asBool }
  | .defaultValue => do return { spec with defaultValue := ← v.asOptional .ok }
  | .trim => do return { spec with trim := ← v.asOptional Value.asBool }
  | .optional => do return { spec with optional := ← v.asBool }
  | .validate => do return { spec with validate := ← v.asOptional Value.asMembers }

def form : RecordForm NodeField NodeSpec where
  title := "struct RawNode"
  fields := NodeField.all
  name := NodeField.name
  keys := NodeField.keys
  ofKey? := NodeField.ofKey?
  mayEndBefore := NodeField.isFlag
  initial := {}
  set := set

/-- The node document that a value is. -/
def decode (v : Value) : Except DecodeFault NodeSpec := form.decode v

end NodeSpec

end ParamSchema
