import ParamSchema.FieldType
import ParamSchema.Rule

/-!
Schema nodes: how one value is checked and brought into normal form. A node is a leaf with a type,
or an object with declared fields, or skips its value; any of these may stand for an array of such
values.
-/

namespace ParamSchema

/-- How one value is checked. -/
structure Node where
  /-- Let every value through unchanged. -/
  skip : Bool := false
  /-- The value is an array, each item of which is checked by this node. -/
  multiple : Bool := false
  /-- The value is an object, checked field by field. -/
  object : Bool := false
  /-- The declared fields, in order. -/
  fields : List (String × Node) := []
  /-- Keep keys that are not declared instead of refusing them. -/
  acceptOtherKeys : Bool := false
  /-- Keep nulls instead of taking them for nothing. -/
  acceptNull : Bool := false
  /-- What stands in for nothing or null. A null default is none. -/
  defaultValue : Option Value := none
  /-- Take an empty string for null. -/
  trim : Bool := true
  /-- As a field: may be missing. -/
  optional : Bool := false
  /-- The type of a leaf. -/
  type : Option FieldType := none
  /-- What the value must meet once it has its normal form, in order. -/
  rules : List Rule := []
deriving Inhabited

/-- The declared fields of an object, in order. -/
abbrev Fields := List (String × Node)

namespace Node

/-- A leaf of a type. -/
def leaf (type : FieldType) : Node := { type := some type }

/-- An object with the given fields. -/
def ofFields (fields : Fields) : Node := { object := true, fields }

/-- The default that stands in for nothing, if there is one. -/
def usableDefault? (node : Node) : Option Value :=
  node.defaultValue.filter fun v => !v.isNull

/-- Whether a key is a declared field. -/
def declares (node : Node) (key : String) : Bool :=
  node.fields.any fun field => field.1 == key

/-- The node of a declared field. -/
def field? (node : Node) (key : String) : Option Node :=
  node.fields.lookup key

/-- The node with one more field. -/
def addField (node : Node) (name : String) (field : Node) : Node :=
  { node with object := true, fields := node.fields ++ [(name, field)] }

/-- The node with one more rule. -/
def addRule (node : Node) (rule : Rule) : Node :=
  { node with rules := node.rules ++ [rule] }

/-- The name that documents give the node's type. -/
def typeName (node : Node) : String :=
  if node.skip then "any"
  else if node.object then "object"
  else
    match node.type with
    | some type => type.name
    | none => "unknown"

end Node

end ParamSchema
