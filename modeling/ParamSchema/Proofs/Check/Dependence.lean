import ParamSchema.Proofs.Check.Rejection
import ParamSchema.Proofs.Check.Spelling

/-!
What a check depends on apart from its node and its input. Of the context it reads the functions of
the rules that are named in the tree (`Node.check_eq_of_sameRules`). Its name stands in faults only,
and only in those about the shape or the type of the value that goes by the name: such a fault
arises at the value itself or at an item of it, and under another name it is the same fault with
that name (`Node.check_noninterference`).
-/

namespace ParamSchema

/-! ### Contexts -/

namespace Rule

variable {context context' : Context} {v : Value} {rules : List Rule}

theorem verdict_congr {rule : Rule}
    (h : ∀ args, rule.check = .named args →
      context.rules.get? rule.name = context'.rules.get? rule.name) :
    rule.verdict context v = rule.verdict context' v := by
  unfold verdict
  cases hcheck : rule.check with
  | inline check => rfl
  | named args => simp only [h args hcheck]

theorem applyAll_congr
    (h : ∀ rule ∈ rules, rule.verdict context v = rule.verdict context' v) :
    applyAll context v rules = applyAll context' v rules := by
  induction rules with
  | nil => rfl
  | cons rule rules ih =>
    obtain ⟨hfirst, hrest⟩ := List.forall_mem_cons.mp h
    rw [applyAll, applyAll, hfirst, ih hrest]

end Rule

namespace Node

variable {context context' : Context} {node : Node}

/-- The contexts hold the same, or both nothing, under the name of each rule of the node. -/
def SameRules (context context' : Context) (node : Node) : Prop :=
  ∀ rule, node.NamesRule rule → context.rules.get? rule = context'.rules.get? rule

theorem SameRules.applyAll_eq (h : node.SameRules context context') (v : Value) :
    Rule.applyAll context v node.rules = Rule.applyAll context' v node.rules :=
  Rule.applyAll_congr fun rule hrule =>
    Rule.verdict_congr fun args named => h rule.name ⟨rule, hrule, rfl, args, named⟩

theorem shape_eq_of_fields
    (h : ∀ field ∈ node.fields, ∀ name input,
      field.2.check context name input = field.2.check context' name input)
    (name : String) (v : Value) : node.shape context name v = node.shape context' name v := by
  cases object : node.object with
  | false => rw [shape_leaf object, shape_leaf object]
  | true =>
    by_cases hobject : ∃ given, v = .object given
    · obtain ⟨given, rfl⟩ := hobject
      exact shape_congr (fun field hfield => h field hfield _ _) rfl object
    · have hnot : ∀ given, v ≠ .object given := by simpa using hobject
      rw [shape_notObject object hnot, shape_notObject object hnot]

theorem checkItem_eq_of_sameRules (same : node.Everywhere (SameRules context context')) :
    node.checkItem context = node.checkItem context' := by
  induction node using induct_fields with
  | h node ih =>
    have hfields : ∀ field ∈ node.fields, ∀ name input,
        field.2.check context name input = field.2.check context' name input := by
      intro field hfield name input
      rw [check, check, ih field hfield (same.field hfield)]
    funext name input
    simp only [checkItem_eq, shape_eq_of_fields hfields, same.here.applyAll_eq]

/-- Contexts that hold the same under the names of the rules in a tree give the same answers and
faults. -/
theorem check_eq_of_sameRules (same : node.Everywhere (SameRules context context')) (name : String)
    (input : Option Value) : node.check context name input = node.check context' name input := by
  rw [check, check, checkItem_eq_of_sameRules same]

end Node

/-! ### Names -/

/-- The fault as it is when the value goes by another name. A missing field, a key that is not
declared and a rule have names of their own, and these stay. -/
def Fault.renamed (name : String) : Fault → Fault
  | rejected _ v .notArray => rejected name v .notArray
  | rejected _ v .notObject => rejected name v .notObject
  | invalidType _ v typeName => invalidType name v typeName
  | missingType _ => missingType name
  | e => e

namespace Node

variable {context : Context} {node : Node} {name : String} {input result : Option Value}

/-- What a check answers does not depend on the name. -/
theorem check_ok_of_name (h : node.check context name input = .ok result) (name' : String) :
    node.check context name' input = .ok result := by
  induction node using induct generalizing input result with
  | h node _ single =>
    refine check_eq_ok_iff.mpr ?_
    cases check_eq_ok_iff.mp h with
    | skipped skip => exact .skipped skip
    | blank skip blank => exact .blank skip blank
    | array skip multiple each =>
      exact .array skip multiple (each.imp fun _ _ hitem => single multiple hitem)
    | item skip multiple present shapes met => exact .item skip multiple present shapes met

end Node

namespace Place

variable {context : Context} {place own : Place} {v : Value} {given : Members} {e : Fault}

/-- The place under another name. -/
def renamed (name : String) (place : Place) : Place := { place with name }

/-- The places of a value itself and, where an array is due, of its items, each once the items
before have passed. -/
inductive Own (context : Context) (place : Place) : Place → Prop
  | self : Own context place place
  | item {before after : List Value} {v : Value}
    (holds : place.Holds (.array (before ++ v :: after))) (multiple : place.node.multiple = true)
    (passed : ∀ u ∈ before, ∃ result,
      place.node.single.check context place.name (some u) = .ok result) :
    Own context place ⟨place.node.single, place.name, some v⟩

/-- A fault arises at the value itself or at one of its items. -/
def RaisesItself (context : Context) (place : Place) (e : Fault) : Prop :=
  ∃ own, place.Own context own ∧ own.Raises context e

/-- A fault is that of a field, to which the name of the value does not matter. -/
def FromField (context : Context) (place : Place) (e : Fault) : Prop :=
  ∃ own next, place.Own context own ∧ (∀ name, (own.renamed name).Below context next) ∧
    next.check context = .error e

theorem Holds.renamed (holds : place.Holds v) (name : String) : (place.renamed name).Holds v :=
  ⟨holds.input, holds.skip, holds.present⟩

theorem HoldsObject.renamed (holds : place.HoldsObject given) (name : String) :
    (place.renamed name).HoldsObject given :=
  ⟨holds.toHolds.renamed name, holds.multiple, holds.object⟩

/-- A place raises the same faults under another name, with that name in them. -/
theorem Raises.renamed (h : place.Raises context e) (name : String) :
    (place.renamed name).Raises context (e.renamed name) := by
  cases h with
  | notArray holds multiple notArray => exact .notArray (holds.renamed name) multiple notArray
  | notObject holds multiple object notObject =>
    exact .notObject (holds.renamed name) multiple object notObject
  | missingType holds multiple object untyped =>
    exact .missingType (holds.renamed name) multiple object untyped
  | invalidType holds multiple object typed refused =>
    exact .invalidType (holds.renamed name) multiple object typed refused
  | required holds fields passed nothing required =>
    exact .required (holds.renamed name) fields passed nothing required
  | unexpected holds passed closed declared undeclared =>
    exact .unexpected (holds.renamed name) passed closed declared undeclared
  | rule holds multiple shapes rules met breaks =>
    refine .rule (holds.renamed name) multiple shapes rules met ?_
    cases breaks with
    | rejected verdict => exact .rejected verdict
    | unknown named unregistered => exact .unknown named unregistered

/-- The name in a fault is that of the place. -/
theorem Raises.renamed_eq (h : place.Raises context e) : e.renamed place.name = e := by
  cases h with
  | rule _ _ _ _ _ breaks => cases breaks <;> rfl
  | _ => rfl

theorem Own.name_eq (h : place.Own context own) : own.name = place.name := by
  cases h <;> rfl

theorem Own.renamed (h : place.Own context own) (name : String) :
    (place.renamed name).Own context (own.renamed name) := by
  cases h with
  | self => exact .self
  | item holds multiple passed =>
    refine .item (holds.renamed name) multiple fun u hu => ?_
    obtain ⟨result, hresult⟩ := passed u hu
    exact ⟨result, Node.check_ok_of_name hresult name⟩

theorem Own.check (h : place.Own context own) (he : own.check context = .error e) :
    place.check context = .error e := by
  cases h with
  | self => exact he
  | item holds multiple passed => exact (Below.item holds multiple passed).check he

theorem Own.itself_or_field (h : place.Own context own) (multiple : own.node.multiple = false)
    (he : own.check context = .error e) :
    place.RaisesItself context e ∨ place.FromField context e := by
  rcases raises_or_below he with hraises | ⟨next, hbelow, hnext⟩
  · exact .inl ⟨own, h, hraises⟩
  · cases hbelow with
    | item _ array => exact absurd (multiple.symm.trans array) Bool.false_ne_true
    | field holds fields passed =>
      exact .inr ⟨own, _, h, fun name => .field (holds.renamed name) fields passed, hnext⟩

/-- The fault of a place arises there or at an item, or it comes from a field. -/
theorem itself_or_field (h : place.check context = .error e) :
    place.RaisesItself context e ∨ place.FromField context e := by
  cases multiple : place.node.multiple with
  | false => exact Own.self.itself_or_field multiple h
  | true =>
    rcases raises_or_below h with hraises | ⟨next, hbelow, hnext⟩
    · exact .inl ⟨place, .self, hraises⟩
    · cases hbelow with
      | item holds array passed => exact (Own.item holds array passed).itself_or_field rfl hnext
      | field holds => exact absurd (holds.multiple.symm.trans multiple) Bool.false_ne_true

theorem RaisesItself.renamed_eq (h : place.RaisesItself context e) : e.renamed place.name = e := by
  obtain ⟨own, hown, hraises⟩ := h
  rw [← hown.name_eq]
  exact hraises.renamed_eq

theorem RaisesItself.check_renamed (h : place.RaisesItself context e) (name : String) :
    (place.renamed name).check context = .error (e.renamed name) := by
  obtain ⟨own, hown, hraises⟩ := h
  exact (hown.renamed name).check (hraises.renamed name).check

theorem FromField.check_renamed (h : place.FromField context e) (name : String) :
    (place.renamed name).check context = .error e := by
  obtain ⟨own, next, hown, hbelow, hnext⟩ := h
  exact (hown.renamed name).check ((hbelow name).check hnext)

end Place

namespace Node

/-- A check depends on the context only through the rules that the tree names, and on its name only
in the faults that arise at the value itself or at an item of it. These carry the name if they are
about the shape or the type of the value; every other fault is the same under all names, as is every
answer. -/
theorem check_noninterference {context context' : Context} {node : Node}
    (same : node.Everywhere fun inner =>
      ∀ rule, inner.NamesRule rule → context.rules.get? rule = context'.rules.get? rule)
    (name name' : String) (input : Option Value) :
    node.check context name input = node.check context' name input ∧
    (∀ result, node.check context name input = .ok result →
      node.check context name' input = .ok result) ∧
    ∀ e, node.check context name input = .error e →
      (Place.RaisesItself context ⟨node, name, input⟩ e →
        e.renamed name = e ∧ node.check context name' input = .error (e.renamed name')) ∧
      (¬Place.RaisesItself context ⟨node, name, input⟩ e →
        node.check context name' input = .error e) := by
  refine ⟨check_eq_of_sameRules same name input, fun result h => check_ok_of_name h name', ?_⟩
  intro e h
  have hplace : Place.check context ⟨node, name, input⟩ = .error e := h
  constructor
  · intro itself
    exact ⟨itself.renamed_eq, itself.check_renamed name'⟩
  · intro below
    have hfield := (Place.itself_or_field hplace).resolve_left below
    exact hfield.check_renamed name'

/-! ### A list of guests -/

namespace Guests

def guestName : Node where
  type := some .string
  rules := [{ name := "isAlphanumeric", check := .named [] }]

/-- Objects with a name each. -/
def schema : Node := { ofFields [("name", guestName)] with multiple := true }

/-- The built-in types and rules, and a type and a rule that the schema does not name. -/
def extended : Context :=
  (Context.builtins.addType "date" .string).addRule "isShiny" fun _ _ => true

def ann : Value := .object [("name", .string "Ann")]

/-- The second guest is no object. -/
def unshaped : List Value := [ann, .string "Bob"]

/-- The name of the second guest is no text. -/
def unnamed : List Value := [ann, .object [("name", .bool true)]]

set_option maxRecDepth 10000 in
theorem sameRules : schema.Everywhere fun inner =>
    ∀ rule, inner.NamesRule rule → Context.builtins.rules.get? rule = extended.rules.get? rule := by
  have hname : guestName.Everywhere (SameRules .builtins extended) := by
    refine .of_leaf rfl ?_
    rintro _ ⟨rule, hrule, rfl, -⟩
    cases List.mem_singleton.mp hrule
    rfl
  refine .of_fields ?_ (List.forall_mem_singleton.mpr hname)
  rintro _ ⟨rule, hrule, -⟩
  cases hrule

theorem raises_unshaped : Place.RaisesItself .builtins ⟨schema, "guests", some (.array unshaped)⟩
    (.rejected "guests" (some (.string "Bob")) .notObject) := by
  have passed : ∀ u ∈ [ann], ∃ result,
      schema.single.check .builtins "guests" (some u) = .ok result :=
    List.forall_mem_singleton.mpr ⟨some ann, rfl⟩
  have holds : Place.Holds ⟨schema, "guests", some (.array unshaped)⟩
      (.array ([ann] ++ .string "Bob" :: [])) := ⟨rfl, rfl, rfl⟩
  exact ⟨_, .item holds rfl passed, .notObject ⟨rfl, rfl, rfl⟩ rfl rfl nofun⟩

/-- In the other context the list comes to the same, and under another name the fault of the second
guest has that name, but not the fault of its name. -/
theorem check_people :
    schema.check .builtins "people" (some (.array unshaped)) =
      schema.check extended "people" (some (.array unshaped)) ∧
    schema.check .builtins "people" (some (.array unshaped)) =
      .error (.rejected "people" (some (.string "Bob")) .notObject) ∧
    schema.check .builtins "people" (some (.array unnamed)) =
      .error (.invalidType "name" (.bool true) "string") := by
  have hdepends (name name' : String) (items : List Value) :=
    check_noninterference sameRules name name' (some (.array items))
  obtain ⟨-, -, hunshaped⟩ := hdepends "guests" "people" unshaped
  obtain ⟨-, -, hunnamed⟩ := hdepends "guests" "people" unnamed
  refine ⟨(hdepends "people" "people" unshaped).1, ((hunshaped _ rfl).1 raises_unshaped).2,
    (hunnamed _ rfl).2 fun itself => ?_⟩
  have hfield := congrArg Fault.field itself.renamed_eq
  exact absurd hfield (by decide)

end Guests

end Node

end ParamSchema
