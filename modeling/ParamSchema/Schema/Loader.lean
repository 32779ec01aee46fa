import ParamSchema.Node
import ParamSchema.Schema.NodeSpec
import ParamSchema.Value.Reader

/-!
Loading schema documents into nodes. Type names are resolved while loading, rule names when values
are checked. A load error is the first one in the order of the document and says where it is.
-/

namespace ParamSchema

/-- What loading allows. -/
structure LoadOptions where
  /-- How many levels of fields a node may have below it. -/
  maxDepth : Nat := 32
  /-- Take a rule entry `false` for a rule that is left out. -/
  allowDisabledRules : Bool := false
deriving DecidableEq

/-- What is wrong with a schema document. -/
inductive LoadCause
  | tooDeep (max : Nat)
  | decode (fault : DecodeFault)
  | unknownType (name : String)
  | typeAndFields
  | missingType
  | formatNotObject (kind : String)
  | rulesNotObject (kind : String)
  /-- A rule entry that is neither `true` nor an array. -/
  | invalidRule (rule : String) (kind : String)

/-- A place in a document: the keys on the way, after the root. -/
abbrev DocumentPath := List String

def DocumentPath.text (path : DocumentPath) : String :=
  ".".intercalate ("$" :: path)

/-- What is wrong with a schema document, and where. -/
structure LoadError where
  path : DocumentPath
  cause : LoadCause

/-- The text of a load error. -/
def LoadError.message (e : LoadError) : String :=
  let place := DocumentPath.text e.path
  let invalidNode (message : String) := s!"invalid schema node at {place}: {message}"
  match e.cause with
  | .tooDeep max => s!"schema nesting too deep at {place} (max {max})"
  | .decode fault => invalidNode fault.message
  | .unknownType name => s!"unknown type '{name}' at {place}"
  | .typeAndFields => invalidNode "node declares both a type and object format"
  | .missingType => invalidNode "leaf node requires a type"
  | .formatNotObject kind => invalidNode s!"format must be an object, got {kind}"
  | .rulesNotObject kind => invalidNode s!"validate must be an object, got {kind}"
  | .invalidRule rule kind =>
    s!"invalid rule '{rule}' at {place}: expected true or an argument array, got {kind}"

/-- Loads documents: the types that they may name, and what is allowed. -/
structure Loader where
  types : Registry FieldType
  options : LoadOptions := {}

namespace Loader

/-- The rule that an entry stands for; none if the entry is disabled. -/
def ruleOfEntry (loader : Loader) (path : DocumentPath) (key : String) (setting : Value) :
    Except LoadError (Option Rule) :=
  let (name, negate) := Rule.ofKey key
  match setting with
  | .bool true => .ok (some { name, negate, check := .named [] })
  | .array args => .ok (some { name, negate, check := .named args })
  | v =>
    match v, loader.options.allowDisabledRules with
    | .bool false, true => .ok none
    | v, _ => .error ⟨path, .invalidRule key v.kind⟩

/-- The rules of a rule map, in order. -/
def rulesOfMembers (loader : Loader) (path : DocumentPath) : Members → Except LoadError (List Rule)
  | [] => .ok []
  | (key, setting) :: rest => do
    let rule ← loader.ruleOfEntry path key setting
    return rule.toList ++ (← loader.rulesOfMembers path rest)

/-- Checks that a node document is one of a leaf, an object or a skip node, and resolves its
type. -/
def resolveType (loader : Loader) (path : DocumentPath) (spec : NodeSpec) :
    Except LoadError (Option FieldType) := do
  let type ← match spec.type with
    | none => pure none
    | some name =>
      match loader.types.get? name with
      | some type => pure (some type)
      | none => .error ⟨path, .unknownType name⟩
  let object := spec.object || spec.format.isSome
  if object && type.isSome then .error ⟨path, .typeAndFields⟩
  else if !object && !spec.skip && type.isNone then .error ⟨path, .missingType⟩
  else return type

/-- The node of a decoded document whose type is resolved and whose fields are loaded. -/
def assemble (spec : NodeSpec) (type : Option FieldType) (fields : Fields) (rules : List Rule) :
    Node where
  skip := spec.skip
  multiple := spec.multiple
  object := spec.object || spec.format.isSome
  fields := fields
  acceptOtherKeys := spec.acceptOtherKeys
  acceptNull := spec.acceptNull
  defaultValue := spec.defaultValue
  trim := spec.trim.getD true
  optional := spec.optional
  type := type
  rules := rules

/-- Loads the fields of a field map in order, each with `loadField`. -/
def fieldsOfMembers (loadField : DocumentPath → Value → Except LoadError Node)
    (path : DocumentPath) : Members → Except LoadError Fields
  | [] => .ok []
  | (name, v) :: rest => do
    let node ← loadField (path ++ [name]) v
    return (name, node) :: (← fieldsOfMembers loadField path rest)

/-- Loads the node document at a place below which `levels` levels of nodes are allowed, its own
among them. -/
def nodeAt (loader : Loader) : Nat → DocumentPath → Value → Except LoadError Node
  | 0, path, _ => .error ⟨path, .tooDeep loader.options.maxDepth⟩
  | levels + 1, path, v => do
    let spec ← (NodeSpec.decode v).mapError fun fault => ⟨path, .decode fault⟩
    let type ← loader.resolveType path spec
    let fields ← fieldsOfMembers (loader.nodeAt levels) (path ++ ["format"]) (spec.format.getD [])
    let rules ← loader.rulesOfMembers (path ++ ["validate"]) (spec.validate.getD [])
    return assemble spec type fields rules

/-- Loads a node document. -/
def loadNode (loader : Loader) (v : Value) : Except LoadError Node :=
  loader.nodeAt (loader.options.maxDepth + 1) [] v

/-- Loads a map of fields, the fields themselves at the top level. -/
def loadFields (loader : Loader) : Value → Except LoadError Fields
  | .object members => fieldsOfMembers (loader.nodeAt (loader.options.maxDepth + 1)) [] members
  | v => .error ⟨[], .formatNotObject v.kind⟩

/-- Loads a map of rules. -/
def loadRules (loader : Loader) : Value → Except LoadError (List Rule)
  | .object members => loader.rulesOfMembers [] members
  | v => .error ⟨[], .rulesNotObject v.kind⟩

end Loader

/-- Why a text does not load as a schema. -/
inductive SchemaError
  | notJson (fault : SyntaxFault)
  | load (error : LoadError)

/-- The text of a schema error. -/
def SchemaError.message : SchemaError → String
  | notJson fault => "schema is not valid JSON: " ++ fault.message
  | load error => error.message

/-- Loads the node document that a text holds. -/
def Loader.readNode (loader : Loader) (text : String) : Except SchemaError Node := do
  let v ← (Value.read text).mapError .notJson
  (loader.loadNode v).mapError .load

end ParamSchema
