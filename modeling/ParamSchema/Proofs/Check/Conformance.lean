import ParamSchema.Proofs.Check.Outcome
import ParamSchema.Proofs.FieldType

/-!
What a checked value looks like. `Node.Conforms` says, by recursion over the schema, which values
are normal forms of which inputs, without mention of a check, and `check_conforms` that every answer
of a check is one.
-/

namespace ParamSchema.Node

/-- If the node is a leaf with a type, the type is a built-in one. -/
def BuiltinLeaf (node : Node) : Prop :=
  ∀ type, node.skip = false → node.object = false → node.type = some type → type.Builtin

/-- If the node is an object, it declares no name twice. -/
def DeclaresOnce (node : Node) : Prop :=
  node.object = true → (node.fields.map (·.1)).Nodup

instance (node : Node) : Decidable node.DeclaresOnce :=
  inferInstanceAs (Decidable (node.object = true → (node.fields.map (·.1)).Nodup))

/-- The value `w` is a normal form of the input for the node. -/
inductive Conforms (context : Context) : Node → Option Value → Value → Prop
  /-- A skip node lets everything through. -/
  | skipped {node : Node} {w : Value} (skip : node.skip = true) : Conforms context node (some w) w
  /-- The default stands in for a blank input as it is. -/
  | default {node : Node} {input : Option Value} {w : Value} (skip : node.skip = false)
    (blank : node.Blank input) (default : node.usableDefault? = some w) :
    Conforms context node input w
  | null {node : Node} {v : Value} (skip : node.skip = false) (reads : node.readsAsNull v = true)
    (accepted : node.acceptNull = true) : Conforms context node (some v) .null
  /-- The items of an array correspond one to one; rules do not look at the array. -/
  | array {node : Node} {items ws : List Value} (skip : node.skip = false)
    (multiple : node.multiple = true) (length : ws.length = items.length)
    (each : ∀ pair ∈ items.zip ws, pair.2 ≠ .null →
      Conforms context node.single (some pair.1) pair.2) :
    Conforms context node (some (.array items)) (.array ws)
  | object {node : Node} {given members : Members} (skip : node.skip = false)
    (multiple : node.multiple = false) (object : node.object = true)
    (distinct : (members.map (·.1)).Nodup)
    /- Every key is declared or, where other keys are accepted, copied from the input. -/
    (keys : ∀ member ∈ members, node.declares member.1 = true ∨
      node.acceptOtherKeys = true ∧ member ∈ given)
    (fields : ∀ field ∈ node.fields, ∀ w, (field.1, w) ∈ members →
      Conforms context field.2 (given.lookup field.1) w)
    (nulls : ∀ field ∈ node.fields, (field.1, .null) ∈ members → field.2.acceptNull = true)
    /- Only a skip field that is given as null may be missing without being optional. -/
    (required : ∀ field ∈ node.fields, field.2.optional = false →
      field.1 ∈ members.map (·.1) ∨ field.2.skip = true ∧ field.2.acceptNull = false ∧
        given.lookup field.1 = some .null)
    (rules : ∀ rule ∈ node.rules, rule.Met context (.object members)) :
    Conforms context node (some (.object given)) (.object members)
  | leaf {node : Node} {type : FieldType} {v : Value} (skip : node.skip = false)
    (multiple : node.multiple = false) (object : node.object = false)
    (present : node.readsAsNull v = false) (typed : node.type = some type)
    (accepted : type.accepts v = true) (gives : type.Gives (type.parse v))
    (rules : ∀ rule ∈ node.rules, rule.Met context (type.parse v)) :
    Conforms context node (some v) (type.parse v)

variable {context : Context} {node : Node} {name : String} {input : Option Value} {v w : Value}
  {given : Members}

/-- With built-in types, a null comes out of a node only where nulls are accepted or skipped. -/
theorem check_null (builtin : node.BuiltinLeaf)
    (h : node.check context name input = .ok (some .null)) :
    node.skip = true ∧ input = some .null ∨ node.acceptNull = true := by
  generalize hanswer : some Value.null = answer at h
  cases check_eq_ok_iff.mp h with
  | skipped skip => exact .inl ⟨skip, rfl⟩
  | blank skip blank =>
    rcases standIn_eq_some blank hanswer.symm with hdefault | ⟨_, _, haccept, _⟩
    · exact absurd hdefault usableDefault?_ne_null
    · exact .inr haccept
  | array => cases hanswer
  | item skip multiple present shapes met =>
    cases shapes with
    | object => cases hanswer
    | leaf object typed accepted =>
      rcases (builtin _ skip object typed).parse_eq_or accepted with hparse | ⟨n, hparse⟩ |
        ⟨b, hparse⟩
      · rw [hparse] at hanswer
        cases hanswer
        cases present
      · rw [hparse] at hanswer
        cases hanswer
      · rw [hparse] at hanswer
        cases hanswer

theorem conforms_of_blank (skip : node.skip = false) (blank : node.Blank input)
    (h : node.standIn input = some w) : Conforms context node input w := by
  rcases standIn_eq_some blank h with hdefault | ⟨_, rfl, haccept, v, rfl, hreads⟩
  · exact .default skip blank hdefault
  · exact .null skip hreads haccept

/-- The members of an object that passed, seen from its fields. -/
theorem conforms_of_shapes (skip : node.skip = false) (multiple : node.multiple = false)
    (present : node.readsAsNull v = false) (builtin : node.Everywhere BuiltinLeaf)
    (once : node.DeclaresOnce)
    (fields : ∀ field ∈ node.fields, ∀ key input w, field.2.check context key input = .ok (some w) →
      Conforms context field.2 input w)
    (shapes : node.Shapes context v w) (met : ∀ rule ∈ node.rules, rule.Met context w) :
    Conforms context node (some v) w := by
  cases shapes with
  | leaf object typed accepted =>
    have hgives := (builtin.here _ skip object typed).gives accepted
    exact .leaf skip multiple object present typed accepted hgives met
  | @object given kept object hkept others =>
    have hnames := once object
    rw [putAll_undeclared hnames hkept] at met ⊢
    -- A declared key can only come from the field that declares it.
    have hdeclared : ∀ field ∈ node.fields, ∀ w,
        (field.1, w) ∈ kept ++ Members.putAll [] (node.undeclared given) →
        field.2.check context field.1 (given.lookup field.1) = .ok (some w) ∧
          (w = .null → field.2.acceptNull = true) := by
      intro field hfield w hw
      rcases List.mem_append.mp hw with hw | hw
      · obtain ⟨other, hother, hkey, h⟩ := hkept.of_mem hw
        rwa [List.inj_on_of_nodup_map hnames hother hfield hkey] at h
      · have hnot := (mem_undeclared.mp ((Members.mem_putAll hw).resolve_right (by simp))).2
        rw [declares_of_mem hfield] at hnot
        cases hnot
    refine .object skip multiple object ?distinct ?keys ?fields ?nulls ?required met
    case distinct =>
      rw [← putAll_undeclared hnames hkept]
      exact Members.nodup_putAll _ (by simp)
    case keys =>
      intro member hmember
      rcases List.mem_append.mp hmember with hmember | hmember
      · exact .inl (declares_iff.mpr (hkept.keys_sublist.subset (List.mem_map_of_mem hmember)))
      · have hother := (Members.mem_putAll hmember).resolve_right (by simp)
        refine .inr ⟨?_, (mem_undeclared.mp hother).1⟩
        by_contra haccept
        rw [others (by simpa using haccept)] at hother
        cases hother
    case fields =>
      intro field hfield w hw
      exact fields field hfield _ _ w (hdeclared field hfield w hw).1
    case nulls =>
      intro field hfield hnull
      exact (hdeclared field hfield _ hnull).2 rfl
    case required =>
      intro field hfield hrequired
      rcases hkept.kept_or_dropped hfield hrequired with hkey | ⟨hnull, hrefused⟩
      · exact .inl (by simp [hkey])
      · rcases check_null (builtin.field hfield).here hnull with ⟨hskip, hgiven⟩ | haccept
        · exact .inr ⟨hskip, hrefused, hgiven⟩
        · rw [hrefused] at haccept
          cases haccept

/-- Every answer of a check conforms to the node, for schemas of built-in types that declare no
name twice. -/
theorem check_conforms (builtin : node.Everywhere BuiltinLeaf) (once : node.Everywhere DeclaresOnce)
    (h : node.check context name input = .ok (some w)) : Conforms context node input w := by
  induction node using induct generalizing name input w with
  | h node fields items =>
    generalize hanswer : some w = answer at h
    cases check_eq_ok_iff.mp h with
    | skipped skip =>
      subst hanswer
      exact .skipped skip
    | blank skip blank => exact conforms_of_blank skip blank hanswer.symm
    | @array values results skip multiple each =>
      cases hanswer
      refine .array skip multiple (by simpa using each.length_eq.symm) fun pair hpair hnull => ?_
      rw [List.zip_map_right] at hpair
      obtain ⟨⟨v, result⟩, hmem, rfl⟩ := List.mem_map.mp hpair
      have hchecked := (List.forall₂_iff_zip.mp each).2 hmem
      -- A null is left to the array; any other item conforms by induction on `single`.
      cases result with
      | none => exact absurd rfl hnull
      | some w =>
        exact items multiple (builtin.single builtin.here) (once.single once.here) hchecked
    | item skip multiple present shapes met =>
      cases hanswer
      refine conforms_of_shapes skip multiple present builtin once.here ?_ shapes met
      intro field hfield key input w h
      exact fields field hfield (builtin.field hfield) (once.field hfield) h

/-! ### An order -/

namespace Order

/-- The numbers of the articles; the text 13 is none. -/
def articles : Node where
  multiple := true
  type := some .integer
  rules := [{ name := "isIn", negate := true, check := .named [.array [.string "13"]] }]

def remark : Node where
  skip := true
  optional := true

def state : Node where
  type := some .string
  defaultValue := some (.string "open")

def regular : Node where
  type := some .boolean
  acceptNull := true

def buyer : Node := .ofFields [("regular", regular)]

def schema : Node where
  object := true
  fields := [("articles", articles), ("remark", remark), ("state", state), ("buyer", buyer)]
  acceptOtherKeys := true

theorem everywhere {P : Node → Prop}
    (h : ∀ inner ∈ [schema, articles, remark, state, buyer, regular], P inner) :
    schema.Everywhere P := by
  simp only [List.forall_mem_cons] at h
  obtain ⟨hschema, harticles, hremark, hstate, hbuyer, hregular, _⟩ := h
  have hfields : buyer.Everywhere P :=
    .of_fields hbuyer (List.forall_mem_singleton.mpr (.of_leaf rfl hregular))
  refine .of_fields hschema ?_
  simp only [schema, List.forall_mem_cons]
  exact ⟨.of_leaf rfl harticles, .of_leaf rfl hremark, .of_leaf rfl hstate, hfields, by simp⟩

def sent : Value :=
  .object [("source", .null), ("buyer", .object [("regular", .string "")]), ("remark", .null),
    ("articles", .array [.string "42", .null])]

def stored : Value :=
  .object [("articles", .array [.number (.whole ⟨42, by decide, by decide⟩), .null]),
    ("state", .string "open"), ("buyer", .object [("regular", .null)]), ("source", .null)]

theorem builtinLeaf : schema.Everywhere BuiltinLeaf :=
  everywhere (by
    simp [BuiltinLeaf, schema, articles, remark, state, buyer, regular, ofFields,
      FieldType.Builtin.string, FieldType.Builtin.integer, FieldType.Builtin.boolean])

theorem declaresOnce : schema.Everywhere DeclaresOnce :=
  everywhere (by decide)

set_option maxRecDepth 10000 in
theorem check_sent : schema.check .builtins "order" (some sent) = .ok (some stored) := rfl

/-- What is stored of an order conforms to it. -/
theorem conforms_stored : Conforms .builtins schema (some sent) stored :=
  check_conforms builtinLeaf declaresOnce check_sent

end Order

end ParamSchema.Node
