import ParamSchema.Context
import ParamSchema.Fault
import ParamSchema.Node

/-!
Checking a value against a node. The result is the value's normal form, nothing if the value comes
to nothing, or the first fault. `Node.check` checks a value; `Node.checkItem` checks an item of the
array that a `multiple` node asks for, that is, it takes no notice of `multiple`.
-/

namespace ParamSchema

namespace Rule

/-- The verdict of a rule on a value before negation. -/
def verdict (rule : Rule) (context : Context) (v : Value) : Except Fault Bool :=
  match rule.check with
  | .inline check => .ok (check v)
  | .named args =>
    match context.rules.get? rule.name with
    | some fn => .ok (fn v args)
    | none => .error (.unknownRule rule.name)

/-- Applies the rules in order; the first that is unknown or not met ends it. -/
def applyAll (context : Context) (v : Value) : List Rule → Except Fault Unit
  | [] => .ok ()
  | rule :: rest => do
    if (← rule.verdict context v) == rule.negate then
      .error (.rejected rule.name (some v) (.rule rule.name))
    else applyAll context v rest

end Rule

namespace Node

/-- What a node makes of an input before it looks at its shape. -/
inductive Intake
  /-- The answer is settled: a default, a null that is kept, or nothing. -/
  | settled (result : Option Value)
  | present (v : Value)

/-- Whether an input counts as null: null itself, or an empty string that is trimmed. -/
def readsAsNull (node : Node) : Value → Bool
  | .null => true
  | .string s => s.isEmpty && node.trim
  | _ => false

/-- Sorts an input into nothing, null or a value, and settles the first two. -/
def intake (node : Node) (input : Option Value) : Intake :=
  match input.filter fun v => !node.readsAsNull v with
  | some v => .present v
  | none =>
    match node.usableDefault? with
    | some v => .settled (some v)
    | none =>
      if input.isSome && node.acceptNull then .settled (some .null) else .settled none

/-- The normal form of a leaf. -/
def checkLeaf (node : Node) (name : String) (v : Value) : Except Fault Value :=
  match node.type with
  | none => .error (.missingType name)
  | some type =>
    if type.accepts v then .ok (type.parse v) else .error (.invalidType name v type.name)

/-- Adds a checked field to the result. Nothing is refused unless the field is optional, and a null
that the field does not accept is left out. -/
def keepField (key : String) (field : Node) (result : Option Value) (done : Members) :
    Except Fault Members :=
  match result with
  | none => if field.optional then .ok done else .error (.rejected key none .required)
  | some .null => if field.acceptNull then .ok (done.put key .null) else .ok done
  | some v => .ok (done.put key v)

/-- Deals with the keys that are not declared: all are copied, or the first is refused. -/
def keepOthers (node : Node) (input done : Members) : Except Fault Members :=
  let others := input.filter fun member => !node.declares member.1
  if node.acceptOtherKeys then
    .ok (others.foldl (fun done member => done.put member.1 member.2) done)
  else
    match others with
    | [] => .ok done
    | (key, v) :: _ => .error (.rejected key (some v) .unexpected)

/-- Checks the items of an array in order; an item that comes to nothing becomes null. -/
def checkItems (check : Value → Except Fault (Option Value)) :
    List Value → Except Fault (List Value)
  | [] => .ok []
  | v :: rest => do
    let result ← check v
    return result.getD .null :: (← checkItems check rest)

/-- Checks a value against a node, given how the node checks an item. -/
def checkShape (node : Node) (checkItem : String → Option Value → Except Fault (Option Value))
    (name : String) (input : Option Value) : Except Fault (Option Value) :=
  if node.multiple && !node.skip then
    match node.intake input with
    | .settled result => .ok result
    | .present (.array items) =>
      return some (.array (← checkItems (fun v => checkItem name (some v)) items))
    | .present v => .error (.rejected name (some v) .notArray)
  else checkItem name input

mutual

/-- Checks a value as one item, whether or not the node is `multiple`. -/
def checkItem (context : Context) : Node → String → Option Value → Except Fault (Option Value)
  | node@{ fields, .. }, name, input =>
    if node.skip then .ok input
    else
      match node.intake input with
      | .settled result => .ok result
      | .present v => do
        let checked ←
          if node.object then
            match v with
            | .object input => do
              let done ← checkFields context input fields []
              pure (.object (← node.keepOthers input done))
            | v => .error (.rejected name (some v) .notObject)
          else node.checkLeaf name v
        Rule.applyAll context checked node.rules
        return some checked
termination_by structural node => node

/-- Checks the declared fields in order and adds them to the result. -/
def checkFields (context : Context) (input : Members) :
    List (String × Node) → Members → Except Fault Members
  | [], done => .ok done
  | (key, field) :: rest, done => do
    let result ← field.checkShape (field.checkItem context) key (input.lookup key)
    checkFields context input rest (← keepField key field result done)
termination_by structural fields => fields

end

/-- Checks a value against a node; `name` stands for the value in faults. Nothing is a value that is
not there. -/
def check (context : Context) (node : Node) (name : String) (input : Option Value) :
    Except Fault (Option Value) :=
  node.checkShape (node.checkItem context) name input

end Node

end ParamSchema
