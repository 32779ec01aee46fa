import ParamSchema.Doc
import ParamSchema.Proofs.Check.Rejection
import ParamSchema.Schema.Loader

/-!
What documentation rows tell about missing fields. The rows of a node are those of the fields that
it declares at any depth (`Node.rows_eq`). A row tells that its field is required exactly if checks
refuse every object that lacks the field (`Node.rows_required`), unless the field skips its value
and has a default: its row shows the default, which no check ever takes.
-/

namespace ParamSchema

/-- A field that a node declares at some depth, and the path of the rows beside it. -/
structure Declaration where
  base : String
  field : String × Node

namespace Declaration

def path (declared : Declaration) : String :=
  Doc.fieldPath declared.base declared.field.1 declared.field.2.doc

/-- The row that documents the field. -/
def row (declared : Declaration) : DocRow :=
  declared.field.2.doc.row declared.path

end Declaration

namespace Node

variable {context : Context} {node : Node} {name : String} {field : String × Node}
  {given : Members}

/-! ### Declared fields and their rows -/

theorem doc_eq (node : Node) : node.doc = {
    type := node.typeName
    multiple := node.multiple
    optional := node.optional
    acceptNull := node.acceptNull
    acceptOtherKeys := node.object && node.acceptOtherKeys
    defaultValue := node.usableDefault?
    rules := node.rules.map Rule.key
    fields := docFields node.fields } := by
  cases node
  rfl

theorem docFields_eq (fields : Fields) :
    docFields fields = fields.map fun field => (field.1, field.2.doc) := by
  induction fields with
  | nil => rfl
  | cons field rest ih =>
    rw [docFields, ih]
    rfl

@[simp] theorem doc_optional (node : Node) : node.doc.optional = node.optional := by
  cases node
  rfl

@[simp] theorem doc_defaultValue (node : Node) : node.doc.defaultValue = node.usableDefault? := by
  cases node
  rfl

mutual

/-- The fields below a node, each before those below it. -/
def declarations : Node → String → List Declaration
  | { fields, .. }, base => fieldDeclarations fields base
termination_by structural node => node

def fieldDeclarations : List (String × Node) → String → List Declaration
  | [], _ => []
  | (name, node) :: rest, base =>
    let declared : Declaration := ⟨base, (name, node)⟩
    declared :: (node.declarations declared.path ++ fieldDeclarations rest base)
termination_by structural fields => fields

end

theorem declarations_eq (node : Node) (base : String) :
    node.declarations base = fieldDeclarations node.fields base := by
  cases node
  rfl

theorem rows_eq_fieldRows (node : Node) (base : String) :
    node.doc.rows base = Doc.fieldRows (docFields node.fields) base := by
  cases node
  rfl

/-- The rows of a field and of the fields below it. -/
def rowsAt (base : String) (field : String × Doc) : List DocRow :=
  let path := Doc.fieldPath base field.1 field.2
  field.2.row path :: field.2.rows path

theorem fieldRows_eq (fields : List (String × Doc)) (base : String) :
    Doc.fieldRows fields base = fields.flatMap (rowsAt base) := by
  induction fields with
  | nil => rfl
  | cons field rest ih =>
    rw [Doc.fieldRows, ih]
    rfl

/-- The rows of a node are the rows of the fields below it. -/
theorem rows_eq (node : Node) (base : String) :
    node.doc.rows base = (node.declarations base).map Declaration.row := by
  induction node using induct_fields generalizing base with
  | h node ih =>
    rw [rows_eq_fieldRows, declarations_eq]
    generalize node.fields = fields at ih
    induction fields with
    | nil => rfl
    | cons field rest more =>
      obtain ⟨hfield, hrest⟩ := List.forall_mem_cons.mp ih
      rw [fieldDeclarations, List.map_cons, List.map_append, ← hfield, ← more hrest]
      rfl

theorem exists_fieldDeclaration_iff {fields : Fields} {base : String}
    (below : ∀ inner ∈ fields, ∀ base,
      (∃ declared ∈ inner.2.declarations base, declared.field = field) ↔
        ∃ outer : Node, outer.Within inner.2 ∧ field ∈ outer.fields) :
    (∃ declared ∈ fieldDeclarations fields base, declared.field = field) ↔
      field ∈ fields ∨
        ∃ inner ∈ fields, ∃ outer : Node, outer.Within inner.2 ∧ field ∈ outer.fields := by
  induction fields with
  | nil => simp [fieldDeclarations]
  | cons first rest ih =>
    obtain ⟨hfirst, hrest⟩ := List.forall_mem_cons.mp below
    obtain ⟨name, node⟩ := first
    simp only [fieldDeclarations, List.mem_cons, List.mem_append, or_and_right, exists_or,
      exists_eq_left, hfirst, ih hrest, @eq_comm _ field, or_assoc, or_left_comm]

/-- The fields below a node are those that the nodes in its tree declare. -/
theorem exists_declaration_iff {base : String} :
    (∃ declared ∈ node.declarations base, declared.field = field) ↔
      ∃ outer : Node, outer.Within node ∧ field ∈ outer.fields := by
  induction node using induct_fields generalizing base with
  | h node ih =>
    rw [declarations_eq, exists_fieldDeclaration_iff fun inner hinner base => ih inner hinner]
    constructor
    · rintro (hfield | ⟨inner, hinner, outer, houter, hfield⟩)
      · exact ⟨node, .self, hfield⟩
      · exact ⟨outer, .field hinner houter, hfield⟩
    · rintro ⟨outer, houter, hfield⟩
      cases houter with
      | self => exact .inl hfield
      | field hinner houter => exact .inr ⟨_, hinner, outer, houter, hfield⟩

/-! ### Objects that lack a field -/

/-- Every object that lacks the field is refused for it, once the fields before have passed. -/
def Demanded (context : Context) (field : String × Node) : Prop :=
  ∀ given : Members, given.lookup field.1 = none →
    Stops context given field (.rejected field.1 none .required)

/-- No object is refused for lacking the field. -/
def Omittable (context : Context) (field : String × Node) : Prop :=
  ∀ given : Members, given.lookup field.1 = none → Passes context given field

/-- The node has a default that no check takes, since it skips its value. -/
def IgnoresDefault (node : Node) : Prop :=
  node.skip = true ∧ node.usableDefault?.isSome = true

/-- Without an input, a node answers its default, or nothing if it skips its value. -/
theorem check_none (node : Node) (name : String) :
    node.check context name none = .ok (if node.skip then none else node.usableDefault?) := by
  cases skip : node.skip with
  | true => exact check_of_skip skip
  | false =>
    rw [check_of_blank skip node.blank_none]
    simp [standIn]

/-- A field is demanded if its check answers nothing for no input and it is not optional. -/
theorem demanded_iff : Demanded context field ↔
    field.2.check context field.1 none = .ok none ∧ field.2.optional = false := by
  constructor
  · intro h
    have hstops := h [] rfl
    rw [Stops, List.lookup_nil, check_none] at hstops
    rcases hstops with hstops | ⟨hnone, hrequired, -⟩
    · cases hstops
    · exact ⟨by rw [check_none, hnone], hrequired⟩
  · rintro ⟨hnone, hrequired⟩ given hlacks
    exact .inr ⟨hlacks ▸ hnone, hrequired, rfl⟩

theorem demanded_iff_default : Demanded context field ↔
    field.2.optional = false ∧ (field.2.skip = true ∨ field.2.usableDefault? = none) := by
  rw [demanded_iff, check_none, and_comm]
  cases field.2.skip <;> simp

theorem omittable_iff : Omittable context field ↔ ¬Demanded context field := by
  rw [demanded_iff]
  constructor
  · rintro h ⟨hnone, hrequired⟩
    have hstops : Stops context [] field (.rejected field.1 none .required) :=
      .inr ⟨hnone, hrequired, rfl⟩
    exact not_passes_of_stops hstops (h [] rfl)
  · intro hnot given hlacks
    refine ⟨_, by rw [hlacks]; exact check_none field.2 field.1, fun hnone => ?_⟩
    by_contra hrequired
    exact hnot ⟨by rw [check_none, hnone], by simpa using hrequired⟩

/-- An object node refuses every object that lacks a demanded field, and for the missing field if
the fields before it pass. -/
theorem Demanded.check {place : Place} {before after : Fields} (demanded : Demanded context field)
    (holds : place.HoldsObject given) (fields : place.node.fields = before ++ field :: after)
    (lacks : given.lookup field.1 = none) :
    ∃ e, place.check context = .error e ∧
      ((∀ earlier ∈ before, Passes context given earlier) →
        e = .rejected field.1 none .required) := by
  have hstops := demanded given lacks
  cases hchecked : checkFields context given place.node.fields [] with
  | ok done =>
    have hpasses := checkFields_eq_ok_iff_passes.mp ⟨done, hchecked⟩ field (by simp [fields])
    exact absurd hpasses (not_passes_of_stops hstops)
  | error e =>
    have hshape : place.node.shape context place.name (.object given) = .error e := by
      rw [shape_object holds.object, hchecked, error_bind]
    refine ⟨e, holds.check_of_shape holds.multiple hshape, fun hpassed => ?_⟩
    cases hchecked.symm.trans
      (checkFields_eq_error_iff.mpr ⟨before, field, after, fields, hpassed, hstops⟩)
    rfl

/-! ### What rows tell -/

theorem row_required_iff {declared : Declaration} : declared.row.required = true ↔
    declared.field.2.optional = false ∧ declared.field.2.usableDefault? = none := by
  simp [Declaration.row, Doc.row]

/-- What the row of a field tells about objects that lack the field. -/
structure Documents (context : Context) (declared : Declaration) (row : DocRow) : Prop where
  path : row.path = declared.path
  demanded : row.required = true ↔
    Demanded context declared.field ∧ ¬declared.field.2.IgnoresDefault
  omittable : row.required = false ↔
    Omittable context declared.field ∨ declared.field.2.IgnoresDefault
  /-- An object node refuses every object that lacks a required field, and for the missing field if
  the fields before it pass. -/
  refused : row.required = true → ∀ (place : Place) (given : Members) (before after : Fields),
    place.HoldsObject given → place.node.fields = before ++ declared.field :: after →
      given.lookup declared.field.1 = none → ∃ e, place.check context = .error e ∧
        ((∀ earlier ∈ before, Passes context given earlier) →
          e = .rejected declared.field.1 none .required)

theorem documents_row (context : Context) (declared : Declaration) :
    Documents context declared declared.row := by
  have hrow : declared.row.required = true ↔
      Demanded context declared.field ∧ ¬declared.field.2.IgnoresDefault := by
    rw [row_required_iff, demanded_iff_default, IgnoresDefault]
    cases declared.field.2.usableDefault? <;> simp
  exact {
    path := rfl
    demanded := hrow
    omittable := by
      rw [omittable_iff, ← Bool.not_eq_true, hrow]
      tauto
    refused := fun h _ _ _ _ holds hfields lacks => (hrow.mp h).1.check holds hfields lacks }

/-- The rows of an object are those of the fields below it, at every depth and in order. A field
that is told to be required is demanded, and one that is not may be left out, unless it ignores its
default. -/
theorem rows_required (context : Context) (fields : Fields) (base : String) :
    List.Forall₂ (Documents context) ((ofFields fields).declarations base)
        ((ofFields fields).doc.rows base) ∧
      ∀ field, (∃ declared ∈ (ofFields fields).declarations base, declared.field = field) ↔
        ∃ outer : Node, outer.Within (ofFields fields) ∧ field ∈ outer.fields := by
  constructor
  · rw [rows_eq, List.forall₂_map_right_iff, List.forall₂_same]
    exact fun declared _ => documents_row context declared
  · exact fun field => exists_declaration_iff

/-! ### A default that is ignored -/

def roleDocument : Value :=
  .object [("role", .object [("skip", .bool true), ("default", .string "guest")])]

def roleFields : Fields := [("role", { skip := true, defaultValue := some (.string "guest") })]

set_option maxRecDepth 10000 in
/-- The row of a field that skips its value tells that it is not required, since it has a default,
but an object may not lack the field. -/
theorem ignored_default_not_required :
    Loader.loadFields { types := FieldType.builtins } roleDocument = .ok roleFields ∧
      ∀ context : Context, ∃ row, (ofFields roleFields).doc.rows "" = [row] ∧
        row.path = "role" ∧ row.required = false ∧
          (ofFields roleFields).check context "body" (some (.object [])) =
            .error (.rejected "role" none .required) :=
  ⟨rfl, fun _ => ⟨_, rfl, rfl, rfl, rfl⟩⟩

end Node

end ParamSchema
