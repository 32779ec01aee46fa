import ParamSchema.Text.Quoted
import ParamSchema.Value.Text

/-!
Records in documents. A record is written as an object of named fields or as an array of all its
fields in their order; `RecordForm.decode` reads both, field by field, and gives the first fault in
the order of the document.
-/

namespace ParamSchema

/-- Why a record cannot be decoded. -/
inductive DecodeFault
  | unknownField (key : String) (expected : List String)
  | duplicateField (name : String)
  | wrongType (got : Value) (want : String)
  /-- An array that ends before a field that may not be left out. -/
  | tooShort (length : Nat) (title : String) (fields : Nat)
  | tooLong (length : Nat)

/-- What a value is, as decoding errors describe it. -/
def Value.description : Value → String
  | null => "null"
  | bool true => "boolean `true`"
  | bool false => "boolean `false`"
  | number (.whole w) => s!"integer `{w.val}`"
  | number (.double d) => s!"floating point `{d.text}`"
  | string s => "string " ++ Text.quoted s
  | array _ => "sequence"
  | object _ => "map"

/-- The text of a decoding error. -/
def DecodeFault.message : DecodeFault → String
  | unknownField key expected =>
    s!"unknown field `{key}`, expected one of " ++
      ", ".intercalate (expected.map fun name => s!"`{name}`")
  | duplicateField name => s!"duplicate field `{name}`"
  | wrongType got want => s!"invalid type: {got.description}, expected {want}"
  | tooShort length title fields =>
    s!"invalid length {length}, expected {title} with {fields} elements"
  | tooLong length => s!"invalid length {length}, expected fewer elements in array"

/-- The fields of a record `S` and how they are decoded. `K` names the fields. -/
structure RecordForm (K S : Type) where
  /-- What the record is called in errors. -/
  title : String
  /-- The fields in order. -/
  fields : List K
  name : K → String
  /-- The keys that errors list as expected. -/
  keys : List String
  ofKey? : String → Option K
  /-- Whether an array may end before the field. -/
  mayEndBefore : K → Bool
  /-- The record with no field given. -/
  initial : S
  /-- Gives a field its value. -/
  set : S → K → Value → Except DecodeFault S

namespace RecordForm

variable {K S : Type}

/-- Reads the members of an object in order; `given` are the fields that came before. -/
def decodeMembers [DecidableEq K] (form : RecordForm K S) (given : List K) (record : S) :
    Members → Except DecodeFault S
  | [] => .ok record
  | (key, v) :: rest => do
    match form.ofKey? key with
    | none => .error (.unknownField key form.keys)
    | some field =>
      if field ∈ given then .error (.duplicateField (form.name field))
      else form.decodeMembers (field :: given) (← form.set record field v) rest

/-- Reads the items of an array as the fields in order. -/
def decodeItems (form : RecordForm K S) (total : Nat) (record : S) :
    List K → List Value → Except DecodeFault S
  | [], [] => .ok record
  | [], _ :: _ => .error (.tooLong total)
  | field :: fields, [] =>
    if form.mayEndBefore field then form.decodeItems total record fields []
    else
      .error (.tooShort (form.fields.length - (fields.length + 1)) form.title form.fields.length)
  | field :: fields, v :: items => do
    form.decodeItems total (← form.set record field v) fields items

/-- The record that a value stands for. -/
def decode [DecidableEq K] (form : RecordForm K S) : Value → Except DecodeFault S
  | .object members => form.decodeMembers [] form.initial members
  | .array items => form.decodeItems items.length form.initial form.fields items
  | v => .error (.wrongType v form.title)

end RecordForm

namespace Value

def asBool : Value → Except DecodeFault Bool
  | bool b => .ok b
  | v => .error (.wrongType v "a boolean")

def asString : Value → Except DecodeFault String
  | string s => .ok s
  | v => .error (.wrongType v "a string")

def asMembers : Value → Except DecodeFault Members
  | object members => .ok members
  | v => .error (.wrongType v "a map")

/-- Null as nothing, and all else as `read` takes it. -/
def asOptional {α : Type} (read : Value → Except DecodeFault α) :
    Value → Except DecodeFault (Option α)
  | null => .ok none
  | v => (read v).map some

end Value

end ParamSchema
