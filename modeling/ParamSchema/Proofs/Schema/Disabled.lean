import ParamSchema.Proofs.Schema.Decoding
import ParamSchema.Proofs.Schema.Loader

/-!
Disabled rules. A loader that allows them loads a document as the same loader, if it refuses them,
loads the document without its disabled rule entries (`Value.withoutDisabled`). Both give the same
node or the same error (`Loader.loadNode_disabled`).
-/

namespace ParamSchema

/-! ### Documents without their disabled entries -/

namespace Value

mutual

/-- The node document without the disabled entries of its rule map, and so for the node documents in
its field map. Defaults and the arguments of rules are no node documents and stay as they are. -/
def withoutDisabled : Value → Value
  | object members => object (membersWithout members)
  | array items => array (itemsWithout NodeField.all items)
  | document => document
termination_by structural document => document

def membersWithout : Members → Members
  | [] => []
  | (key, v) :: rest =>
    (key, match NodeField.ofKey? key with
      | some field => underWithout field v
      | none => v) :: membersWithout rest
termination_by structural members => members

/-- The items of a node document that is written as an array of its fields. -/
def itemsWithout : List NodeField → List Value → List Value
  | field :: fields, v :: items => underWithout field v :: itemsWithout fields items
  | _, items => items
termination_by structural _ items => items

/-- What stands under a field of a node document. -/
def underWithout : NodeField → Value → Value
  | .format, object fields => object (fieldsWithout fields)
  | .validate, object entries => object (Loader.enabled entries)
  | _, v => v
termination_by structural _ v => v

def fieldsWithout : Members → Members
  | [] => []
  | (name, document) :: rest => (name, withoutDisabled document) :: fieldsWithout rest
termination_by structural fields => fields

end

theorem itemsWithout_nil (fields : List NodeField) : itemsWithout fields [] = [] := by
  cases fields <;> rfl

theorem length_itemsWithout (fields : List NodeField) (items : List Value) :
    (itemsWithout fields items).length = items.length := by
  induction items generalizing fields with
  | nil => rw [itemsWithout_nil]
  | cons v items ih =>
    cases fields with
    | nil => rfl
    | cons field fields => rw [itemsWithout, List.length_cons, List.length_cons, ih]

theorem underWithout_of_ne {field : NodeField} (format : field ≠ .format)
    (validate : field ≠ .validate) (v : Value) : v.underWithout field = v := by
  cases field with
  | format => exact absurd rfl format
  | validate => exact absurd rfl validate
  | _ => cases v <;> rfl

end Value

/-! ### Decoding -/

namespace NodeSpec

/-- The node document without its disabled entries, once it is decoded. -/
def withoutDisabled (spec : NodeSpec) : NodeSpec :=
  { spec with
    format := spec.format.map Value.fieldsWithout
    validate := spec.validate.map Loader.enabled }

theorem getD_format_withoutDisabled (spec : NodeSpec) :
    spec.withoutDisabled.format.getD [] = Value.fieldsWithout (spec.format.getD []) :=
  Option.getD_map Value.fieldsWithout [] spec.format

theorem getD_validate_withoutDisabled (spec : NodeSpec) :
    spec.withoutDisabled.validate.getD [] = Loader.enabled (spec.validate.getD []) :=
  Option.getD_map Loader.enabled [] spec.validate

theorem set_underWithout (spec : NodeSpec) (field : NodeField) (v : Value) :
    spec.withoutDisabled.set field (v.underWithout field) =
      (spec.set field v).map withoutDisabled := by
  cases field with
  | format | validate => cases v <;> rfl
  | _ =>
    rw [Value.underWithout_of_ne]
    · simp only [set, map_bind_pure]
      rfl
    · decide
    · decide

theorem set_underWithout_bind {spec : NodeSpec} {field : NodeField} {v : Value}
    {next next' : NodeSpec → Except DecodeFault NodeSpec}
    (h : ∀ spec, next' spec.withoutDisabled = (next spec).map withoutDisabled) :
    spec.withoutDisabled.set field (v.underWithout field) >>= next' =
      (spec.set field v >>= next).map withoutDisabled := by
  rw [set_underWithout]
  exact map_bind_map h

theorem decodeMembers_membersWithout (given : List NodeField) (spec : NodeSpec)
    (members : Members) :
    form.decodeMembers given spec.withoutDisabled (Value.membersWithout members) =
      (form.decodeMembers given spec members).map withoutDisabled := by
  induction members generalizing given spec with
  | nil => rfl
  | cons member rest ih =>
    obtain ⟨key, v⟩ := member
    rw [Value.membersWithout]
    cases hkey : NodeField.ofKey? key with
    | none =>
      have hunknown : form.ofKey? key = none := hkey
      simp [RecordForm.decodeMembers, hunknown, Except.map]
    | some field =>
      have hfield : form.ofKey? key = some field := hkey
      rw [RecordForm.decodeMembers_cons hfield, RecordForm.decodeMembers_cons hfield]
      split
      · rfl
      · refine set_underWithout_bind fun next => ?_
        exact ih (field :: given) next

theorem decodeItems_itemsWithout (total : Nat) (spec : NodeSpec) (fields : List NodeField)
    (items : List Value) :
    form.decodeItems total spec.withoutDisabled fields (Value.itemsWithout fields items) =
      (form.decodeItems total spec fields items).map withoutDisabled := by
  induction fields generalizing items spec with
  | nil => cases items <;> rfl
  | cons field fields ih =>
    cases items with
    | nil =>
      -- The rest of the fields is left out in both, as far as it may be.
      have hend := ih spec []
      rw [Value.itemsWithout_nil] at hend ⊢
      simp only [RecordForm.decodeItems]
      split
      · exact hend
      · rfl
    | cons v items =>
      refine set_underWithout_bind fun next => ?_
      exact ih next items

/-- A document without its disabled entries is decoded as it is with them, but for these. -/
theorem decode_withoutDisabled (document : Value) :
    NodeSpec.decode document.withoutDisabled = (NodeSpec.decode document).map withoutDisabled := by
  cases document with
  | object members => exact decodeMembers_membersWithout [] {} members
  | array items =>
    have hdecode : NodeSpec.decode (Value.array items).withoutDisabled =
        form.decodeItems (Value.itemsWithout NodeField.all items).length {} NodeField.all
          (Value.itemsWithout NodeField.all items) := rfl
    rw [hdecode, Value.length_itemsWithout]
    exact decodeItems_itemsWithout items.length {} NodeField.all items
  | _ => rfl

end NodeSpec

/-! ### Loading -/

namespace Loader

variable {loader : Loader} {path : DocumentPath} {key : String} {setting : Value}

/-- The loader with an answer of its own to whether rule entries may be disabled. -/
def allowing (loader : Loader) (allow : Bool) : Loader :=
  { loader with options := { loader.options with allowDisabledRules := allow } }

theorem enabled_cons_of_ne (h : setting ≠ .bool false) (entries : Members) :
    enabled ((key, setting) :: entries) = (key, setting) :: enabled entries := by
  refine List.filter_cons_of_pos ?_
  split
  · contradiction
  · rfl

/-- The two loaders differ at disabled entries only. -/
theorem ruleOfEntry_allowing (h : setting ≠ .bool false) (allow allow' : Bool) :
    (loader.allowing allow).ruleOfEntry path key setting =
      (loader.allowing allow').ruleOfEntry path key setting := by
  cases setting with
  | bool b =>
    cases b with
    | true => rfl
    | false => exact absurd rfl h
  | _ => rfl

theorem rulesOfMembers_enabled (entries : Members) :
    (loader.allowing false).rulesOfMembers path (enabled entries) =
      (loader.allowing true).rulesOfMembers path entries := by
  induction entries with
  | nil => rfl
  | cons entry entries ih =>
    obtain ⟨key, setting⟩ := entry
    by_cases hfalse : setting = .bool false
    · have henabled : enabled ((key, setting) :: entries) = enabled entries := by
        rw [hfalse]
        rfl
      rw [henabled, ih, rulesOfMembers_cons, hfalse, ruleOfEntry_false rfl, ok_bind]
      -- The entry adds nothing to the rules of the others.
      cases (loader.allowing true).rulesOfMembers path entries <;> rfl
    · rw [enabled_cons_of_ne hfalse, rulesOfMembers_cons, rulesOfMembers_cons, ih,
        ruleOfEntry_allowing hfalse]

theorem fieldsOfMembers_fieldsWithout
    {load load' : DocumentPath → Value → Except LoadError Node}
    (h : ∀ path document, load' path document.withoutDisabled = load path document)
    (path : DocumentPath) (members : Members) :
    fieldsOfMembers load' path (Value.fieldsWithout members) =
      fieldsOfMembers load path members := by
  induction members with
  | nil => rfl
  | cons member rest ih => rw [Value.fieldsWithout, fieldsOfMembers, fieldsOfMembers, h, ih]

theorem resolveType_withoutDisabled (allow allow' : Bool) (spec : NodeSpec) :
    (loader.allowing allow).resolveType path spec.withoutDisabled =
      (loader.allowing allow').resolveType path spec := by
  simp only [resolveType, NodeSpec.withoutDisabled, Option.isSome_map]
  rfl

theorem assemble_withoutDisabled (spec : NodeSpec) (type : Option FieldType) (fields : Fields)
    (rules : List Rule) :
    assemble spec.withoutDisabled type fields rules = assemble spec type fields rules := by
  simp only [assemble, NodeSpec.withoutDisabled, Option.isSome_map]

theorem nodeAt_withoutDisabled (levels : Nat) (path : DocumentPath) (document : Value) :
    (loader.allowing false).nodeAt levels path document.withoutDisabled =
      (loader.allowing true).nodeAt levels path document := by
  induction levels generalizing path document with
  | zero => rfl
  | succ levels ih =>
    rw [nodeAt, nodeAt, NodeSpec.decode_withoutDisabled]
    cases NodeSpec.decode document with
    | error fault => rfl
    | ok spec =>
      simp only [Except.map, Except.mapError, ok_bind, NodeSpec.getD_format_withoutDisabled,
        NodeSpec.getD_validate_withoutDisabled, fieldsOfMembers_fieldsWithout ih,
        rulesOfMembers_enabled, assemble_withoutDisabled]
      rw [resolveType_withoutDisabled false true]

/-- Disabled rules are rules that are left out: a loader that allows them answers to every document
as it would, without allowing them, to the document without its disabled entries. -/
theorem loadNode_disabled (loader : Loader) (document : Value) :
    (loader.allowing true).loadNode document =
      (loader.allowing false).loadNode document.withoutDisabled :=
  (nodeAt_withoutDisabled (loader.options.maxDepth + 1) [] document).symm

/-- A false that is a default, or an argument of a rule, disables nothing. -/
example : Value.withoutDisabled (.object [("format", .object [("open", .object [
      ("type", .string "boolean"), ("default", .bool false),
      ("validate", .object [("in", .array [.bool false]), ("isBoolean", .bool false)])])])]) =
    .object [("format", .object [("open", .object [
      ("type", .string "boolean"), ("default", .bool false),
      ("validate", .object [("in", .array [.bool false])])])])] := rfl

end Loader

end ParamSchema
