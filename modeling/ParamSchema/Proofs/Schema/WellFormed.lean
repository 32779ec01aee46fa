import ParamSchema.Proofs.Check.Rejection
import ParamSchema.Proofs.Schema.Loader
import ParamSchema.Proofs.Schema.Record

/-!
Loaded trees are well formed: every node in them is a leaf with a registered type, an object whose
fields have different names, or a skip node. A check of such a tree finds fault with its input only,
or with a rule that is not registered.
-/

namespace ParamSchema

/-- What a schema document may ask of one node, with the types of a registry. -/
structure Node.WellFormed (types : Registry FieldType) (node : Node) : Prop where
  fields : node.fields ≠ [] → node.object = true
  exclusive : node.object = true → node.type = none
  untyped : node.object = false → node.type = none → node.skip = true
  names : (node.fields.map (·.1)).Nodup
  default : node.defaultValue ≠ some .null
  registered : ∀ type, node.type = some type → ∃ name, types.get? name = some type

namespace Loader

variable {loader : Loader} {path : DocumentPath} {spec : NodeSpec} {type : Option FieldType}
  {v : Value} {node : Node} {fields : Fields} {members : Members}

/-- The node of a document is well formed, if its fields have the names in the document. -/
theorem assemble_wellFormed (rules : List Rule) (sound : spec.Sound)
    (hresolves : loader.Resolves spec type)
    (hnames : fields.map (·.1) = (spec.format.getD []).map (·.1)) :
    (assemble spec type fields rules).WellFormed loader.types where
  fields hfields := by
    have hformat : spec.format.isSome = true := by
      cases hformat : spec.format with
      | none =>
        rw [hformat] at hnames
        exact absurd (List.map_eq_nil_iff.mp hnames) hfields
      | some members => rfl
    simp [assemble, hformat]
  exclusive := hresolves.object
  untyped hobject htype := by
    by_contra hskip
    have := hresolves.leaf hobject (Bool.eq_false_iff.mpr hskip)
    rw [show type = none from htype] at this
    cases this
  names := by
    show (fields.map (·.1)).Nodup
    rw [hnames]
    cases hformat : spec.format with
    | none => exact List.nodup_nil
    | some members => exact (Value.distinct_object_iff.mp (sound.format members hformat)).1
  default := sound.default
  registered t ht := by
    have hnamed := hresolves.named
    rw [show type = some t from ht] at hnamed
    obtain ⟨name, _, hget⟩ := Option.map_eq_some_iff.mp hnamed
    exact ⟨name, hget⟩

/-- Every node of a loaded tree is well formed. -/
theorem nodeAt_everywhere {levels : Nat} (hv : v.Distinct)
    (h : loader.nodeAt levels path v = .ok node) :
    node.Everywhere (Node.WellFormed loader.types) := by
  induction levels generalizing path v node with
  | zero => cases h
  | succ levels ih =>
    obtain ⟨spec, type, fields, rules, hdecode, hresolves, hfields, _, rfl⟩ :=
      nodeAt_eq_ok_iff.mp h
    have hsound := NodeSpec.decode_sound hv hdecode
    refine .of_fields (assemble_wellFormed rules hsound hresolves (names_of_loaded hfields)) ?_
    intro field hfield
    obtain ⟨member, hmember, hload⟩ := exists_member_of_loaded hfields hfield
    -- The documents of the fields are values of the field map, so their keys are distinct too.
    refine ih ?_ hload
    cases hformat : spec.format with
    | none => simp [hformat] at hmember
    | some members =>
      rw [hformat] at hmember
      exact (Value.distinct_object_iff.mp (hsound.format members hformat)).2 member hmember

/-- A loaded tree is well formed at every depth, and a check of it never misses the type of a leaf:
it finds fault with its input, or with a rule that the tree names and the context does not know. -/
theorem loadNode_wellFormed (hv : v.Distinct) (h : loader.loadNode v = .ok node) :
    node.Everywhere (Node.WellFormed loader.types) ∧
      ∀ (context : Context) (name : String) (input : Option Value) (e : Fault),
        node.check context name input = .error e →
          (∀ field, e ≠ .missingType field) ∧
          (∀ rule, e = .unknownRule rule →
            (∃ inner : Node, inner.Within node ∧ inner.NamesRule rule) ∧
              context.rules.get? rule = none) ∧
          ((∀ inner : Node, inner.Within node → ∀ rule, inner.NamesRule rule →
            (context.rules.get? rule).isSome = true) → e.isInputError = true) := by
  have hwell := nodeAt_everywhere hv h
  refine ⟨hwell, fun context name input e hcheck => ?_⟩
  have hmissing : ∀ field, e ≠ .missingType field := by
    rintro field rfl
    exact Node.check_ne_missingType field (fun inner hinner => (hwell inner hinner).untyped) hcheck
  have hunknown : ∀ rule, e = .unknownRule rule →
      (∃ inner : Node, inner.Within node ∧ inner.NamesRule rule) ∧
        context.rules.get? rule = none := by
    rintro rule rfl
    exact Node.namesRule_of_check_unknownRule hcheck
  refine ⟨hmissing, hunknown, fun hregistered => ?_⟩
  cases e with
  | rejected => rfl
  | invalidType => rfl
  | missingType field => exact absurd rfl (hmissing field)
  | unknownRule rule =>
    obtain ⟨⟨inner, hinner, hnames⟩, hnone⟩ := hunknown rule rfl
    have := hregistered inner hinner rule hnames
    rw [hnone] at this
    cases this

/-! ### An article -/

/-- A number from 1 on, a price whose default is null, and a remark. -/
def articleDocument : Value :=
  .object [("format", .object [
    ("number", .object [("type", .string "integer"),
      ("validate", .object [("min", .array [.number (.whole ⟨1, by decide, by decide⟩)])])]),
    ("price", .object [("type", .string "number"), ("default", .null), ("optional", .bool true)]),
    ("remark", .object [("skip", .bool true)])])]

def article : Node :=
  .ofFields [
    ("number", {
      type := some .integer
      rules := [{ name := "min", check := .named [.number (.whole ⟨1, by decide, by decide⟩)] }] }),
    ("price", { type := some .number, optional := true }),
    ("remark", { skip := true })]

theorem articleDocument_distinct : articleDocument.Distinct := by
  simp [articleDocument]

set_option maxRecDepth 10000 in
theorem load_article : loadNode { types := FieldType.builtins } articleDocument = .ok article := rfl

/-- Without rules, a check of an article does not know the least number. -/
theorem check_article : article.check .empty "article"
    (some (.object [("number", .number (.whole ⟨5, by decide, by decide⟩))])) =
      .error (.unknownRule "min") := rfl

/-- The article is well formed, no check of it misses a type, and the rule that a check may not know
is one of its own. -/
theorem article_wellFormed : article.Everywhere (Node.WellFormed FieldType.builtins) ∧
    (∀ context name input field,
      article.check context name input ≠ .error (.missingType field)) ∧
        ∃ inner : Node, inner.Within article ∧ inner.NamesRule "min" := by
  obtain ⟨hwell, hfaults⟩ := loadNode_wellFormed articleDocument_distinct load_article
  refine ⟨hwell, fun context name input field h => ?_, ?_⟩
  · exact (hfaults context name input _ h).1 field rfl
  · exact ((hfaults _ _ _ _ check_article).2.1 "min" rfl).1

end Loader

end ParamSchema
