import ParamSchema.Value

/-!
Rules: constraints that a value must meet after its type was checked. A rule either names a
function and carries arguments for it, or holds its own predicate; a negated rule is met when the
verdict is false.
-/

namespace ParamSchema

/-- A named rule's function: its verdict on a value and the arguments. -/
abbrev RuleFn := Value → List Value → Bool

/-- Where a rule gets its verdict. -/
inductive RuleCheck
  /-- The function registered under the rule's name, called with the value and `args`. -/
  | named (args : List Value)
  | inline (check : Value → Bool)

/-- A constraint on a value. Its name is also the reason given when it is not met. -/
structure Rule where
  name : String
  negate : Bool := false
  check : RuleCheck

namespace Rule

/-- What negates a rule key. -/
def negation : String := "NOT_"

/-- The rule inverted. -/
def negated (rule : Rule) : Rule :=
  { rule with negate := !rule.negate }

/-- The name in a rule key and whether the key is negated; only the first negation counts. -/
def ofKey (key : String) : String × Bool :=
  if negation.toList.isPrefixOf key.toList then
    (String.ofList (key.toList.drop negation.length), true)
  else (key, false)

/-- The key that stands for the rule in a document. -/
def key (rule : Rule) : String :=
  if rule.negate then negation ++ rule.name else rule.name

end Rule

end ParamSchema
