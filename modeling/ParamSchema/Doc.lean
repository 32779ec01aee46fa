import ParamSchema.Node

/-!
Documentation of nodes: a tree of the shape of the node, and the same as flat rows with
dotted paths.
-/

namespace ParamSchema

/-- The documentation of a node. -/
structure Doc where
  type : String
  multiple : Bool := false
  optional : Bool := false
  acceptNull : Bool := false
  acceptOtherKeys : Bool := false
  defaultValue : Option Value := none
  /-- Rule keys as documents write them. -/
  rules : List String := []
  fields : List (String × Doc) := []
deriving Inhabited

/-- One field of a documentation tree. -/
structure DocRow where
  /-- The names on the way with points between, and brackets after those of arrays. -/
  path : String
  type : String
  required : Bool
  defaultValue : Option Value
  rules : List String

namespace Node

mutual

/-- The documentation of a node. -/
def doc : Node → Doc
  | node@{ fields, .. } => {
    type := node.typeName
    multiple := node.multiple
    optional := node.optional
    acceptNull := node.acceptNull
    acceptOtherKeys := node.object && node.acceptOtherKeys
    defaultValue := node.usableDefault?
    rules := node.rules.map Rule.key
    fields := docFields fields }
termination_by structural node => node

def docFields : List (String × Node) → List (String × Doc)
  | [] => []
  | (name, node) :: rest => (name, node.doc) :: docFields rest
termination_by structural fields => fields

end

end Node

namespace Doc

/-- The path of a field below `base`. -/
def fieldPath (base name : String) (doc : Doc) : String :=
  (if base.isEmpty then name else base ++ "." ++ name) ++ (if doc.multiple then "[]" else "")

/-- The row of a field at a path. -/
def row (path : String) (doc : Doc) : DocRow where
  path := path
  type := doc.type
  required := !doc.optional && doc.defaultValue.isNone
  defaultValue := doc.defaultValue
  rules := doc.rules

mutual

/-- The rows of all fields below a node, each before those below it. -/
def rows : Doc → String → List DocRow
  | { fields, .. }, base => fieldRows fields base
termination_by structural doc => doc

def fieldRows : List (String × Doc) → String → List DocRow
  | [], _ => []
  | (name, doc) :: rest, base =>
    let path := fieldPath base name doc
    doc.row path :: (doc.rows path ++ fieldRows rest base)
termination_by structural fields => fields

end

/-- A member that is there only if the flag holds. -/
def flagMember (key : String) (flag : Bool) : Members :=
  if flag then [(key, .bool true)] else []

/-- A member that is there only if the list has items. -/
def listMember (key : String) (items : List Value) : Members :=
  if items.isEmpty then [] else [(key, .array items)]

mutual

/-- The documentation as the members of an object; what is false or empty is left out. -/
def toMembers : Doc → Members
  | doc@{ fields, .. } =>
    [("type", .string doc.type)] ++ flagMember "multiple" doc.multiple ++
      flagMember "optional" doc.optional ++ flagMember "accept_null" doc.acceptNull ++
      flagMember "accept_other_keys" doc.acceptOtherKeys ++
      (doc.defaultValue.map fun v => ("default", v)).toList ++
      listMember "rules" (doc.rules.map .string) ++ listMember "fields" (fieldValues fields)
termination_by structural doc => doc

def fieldValues : List (String × Doc) → List Value
  | [] => []
  | (name, doc) :: rest => .object (("name", .string name) :: doc.toMembers) :: fieldValues rest
termination_by structural fields => fields

end

/-- The documentation as an object. -/
def toValue (doc : Doc) : Value := .object doc.toMembers

end Doc

end ParamSchema
