import ParamSchema.FieldType
import ParamSchema.Rule.Builtin

/-!
The types and rules that schemas may name. Whatever the order of registration, a name means its last
explicit registration, and a built-in only if it has none.
-/

namespace ParamSchema

/-- The registered types and rule functions. -/
structure Context where
  types : Registry FieldType
  rules : Registry RuleFn
deriving Inhabited

namespace Context

/-- The context without types and rules. -/
def empty : Context := ⟨.empty, .empty⟩

/-- Adds the built-in types and rules whose names are free: the types name by name, the rules entry
by entry. -/
def addBuiltins (context : Context) : Context :=
  ⟨context.types.addNames FieldType.builtins, context.rules.addMissing Rule.builtins⟩

/-- Registers a type under a name. -/
def addType (context : Context) (name : String) (type : FieldType) : Context :=
  { context with types := context.types.insert name type }

/-- Registers a rule function under a name. -/
def addRule (context : Context) (name : String) (rule : RuleFn) : Context :=
  { context with rules := context.rules.insert name rule }

/-- The built-in types and rules. -/
def builtins : Context := empty.addBuiltins

end Context

end ParamSchema
