import ParamSchema.Context
import ParamSchema.Proofs.Value.Reordered

/-!
The built-in rule functions, whatever the names they are registered under. None of them takes notice
of the order of keys in the value that it looks at (`BuiltinFn.apply_eq`).
-/

namespace ParamSchema

namespace Value

variable {v v' : Value}

theorem Reordered.asText?_eq (h : v.Reordered v') : v.asText? = v'.asText? := by
  cases h <;> rfl

theorem Reordered.looselyEqual_eq (h : v.Reordered v') (u : Value) :
    v.looselyEqual u = v'.looselyEqual u := by
  rw [looselyEqual, looselyEqual, h.same_eq, h.asText?_eq]

end Value

namespace Rule

/-- The functions of the built-in rules. -/
inductive BuiltinFn : RuleFn → Prop
  | equals : BuiltinFn equals
  | contains : BuiltinFn contains
  | isIn : BuiltinFn isIn
  | isLength : BuiltinFn isLength
  | matchesPattern : BuiltinFn matchesPattern
  | isEmail : BuiltinFn isEmail
  | isNumeric : BuiltinFn isNumeric
  | isAlphanumeric : BuiltinFn isAlphanumeric
  | min : BuiltinFn min
  | max : BuiltinFn max

set_option maxRecDepth 10000 in
theorem entries_builtins : builtins.entries =
    [("contains", contains), ("equals", equals), ("isAlphanumeric", isAlphanumeric),
      ("isEmail", isEmail), ("isIn", isIn), ("isLength", isLength), ("isNumeric", isNumeric),
      ("matches", matchesPattern), ("max", max), ("min", min)] := rfl

set_option maxRecDepth 10000 in
theorem builtins_rules : Context.builtins.rules = builtins := rfl

/-- The registry of built-in rules holds no other functions. -/
theorem builtinFn_of_get? {name : String} {fn : RuleFn} (h : builtins.get? name = some fn) :
    BuiltinFn fn := by
  rw [Registry.get?, entries_builtins] at h
  obtain ⟨before, after, hentries, _⟩ := List.lookup_eq_some_iff.mp h
  have hmem : (name, fn) ∈ before ++ (name, fn) :: after := List.mem_append_cons_self
  rw [← hentries] at hmem
  simp only [List.mem_cons, Prod.mk.injEq, List.not_mem_nil, or_false] at hmem
  rcases hmem with ⟨_, rfl⟩ | ⟨_, rfl⟩ | ⟨_, rfl⟩ | ⟨_, rfl⟩ | ⟨_, rfl⟩ | ⟨_, rfl⟩ | ⟨_, rfl⟩ |
    ⟨_, rfl⟩ | ⟨_, rfl⟩ | ⟨_, rfl⟩ <;> constructor

variable {v v' : Value} {items items' : List Value} {fn : RuleFn}

theorem any_looselyEqual_eq (h : List.Forall₂ Value.Reordered items items') (u : Value) :
    (items.any fun item => item.looselyEqual u) = items'.any fun item => item.looselyEqual u := by
  induction h with
  | nil => rfl
  | cons hitem _ ih => rw [List.any_cons, List.any_cons, hitem.looselyEqual_eq, ih]

theorem length?_eq (h : v.Reordered v') : length? v = length? v' := by
  cases h with
  | refl => rfl
  | array each => simp only [length?, each.length_eq]
  | object => rfl

theorem position?_eq (h : v.Reordered v') : position? v = position? v' := by
  cases h <;> rfl

theorem contains_eq (h : v.Reordered v') (args : List Value) :
    contains v args = contains v' args := by
  cases args with
  | nil => cases h <;> rfl
  | cons seed rest =>
    cases h with
    | refl => rfl
    | array each => exact any_looselyEqual_eq each seed
    | object => rfl

/-- The verdict of a built-in rule is the same on reordered values. -/
theorem BuiltinFn.apply_eq (builtin : BuiltinFn fn) (h : v.Reordered v') (args : List Value) :
    fn v args = fn v' args := by
  cases builtin with
  | equals => simp only [Rule.equals, h.looselyEqual_eq]
  | contains => exact contains_eq h args
  | isIn => simp only [Rule.isIn, h.looselyEqual_eq]
  | isLength => simp only [Rule.isLength, length?_eq h]
  | matchesPattern => simp only [Rule.matchesPattern, h.asText?_eq]
  | isNumeric => simp only [Rule.isNumeric, h.asText?_eq]
  | min => simp only [Rule.min, position?_eq h]
  | max => simp only [Rule.max, position?_eq h]
  | isEmail | isAlphanumeric => cases h <;> rfl

end Rule

end ParamSchema
