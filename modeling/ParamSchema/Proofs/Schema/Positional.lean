import ParamSchema.Proofs.Schema.Decoding
import ParamSchema.Route.Loader

/-!
Records written by position. An array is decoded as a record if it has no more items than there are
fields and ends only before fields that may be left out; then it is decoded as the object that gives
the fields the items under their names, to the same record or to the same fault
(`RecordForm.decode_array`). A node document has all its fields in an array, and a route document
may leave out the flags at the end (`Loader.load_positional`).
-/

namespace ParamSchema

namespace RecordForm

variable {K S : Type} {form : RecordForm K S} {fields given : List K} {items : List Value}
  {record result : S} {total : Nat}

/-- The form finds each field under its name and lists no field twice. -/
structure Named (form : RecordForm K S) : Prop where
  ofKey? : ∀ field, form.ofKey? (form.name field) = some field
  nodup : form.fields.Nodup

/-- The items give the fields in order, and the fields that get no item may be left out. -/
structure Fits (form : RecordForm K S) (fields : List K) (items : List Value) : Prop where
  length : items.length ≤ fields.length
  rest : ∀ field ∈ fields.drop items.length, form.mayEndBefore field = true

theorem fits_cons {field : K} {v : Value} :
    form.Fits (field :: fields) (v :: items) ↔ form.Fits fields items := by
  constructor
  · rintro ⟨length, rest⟩
    exact ⟨Nat.le_of_succ_le_succ length, rest⟩
  · rintro ⟨length, rest⟩
    exact ⟨Nat.succ_le_succ length, rest⟩

/-- If an array may end before the fields from `least` on and before no other, it fits from that
many items on. -/
theorem fits_iff_length {least : Nat}
    (ends : ∀ count ≤ form.fields.length,
      (∀ field ∈ form.fields.drop count, form.mayEndBefore field = true) ↔ least ≤ count) :
    form.Fits form.fields items ↔ least ≤ items.length ∧ items.length ≤ form.fields.length := by
  constructor
  · rintro ⟨length, rest⟩
    exact ⟨(ends _ length).mp rest, length⟩
  · rintro ⟨hleast, length⟩
    exact ⟨length, (ends _ length).mpr hleast⟩

theorem fits_of_decodeItems (h : form.decodeItems total record fields items = .ok result) :
    form.Fits fields items := by
  induction fields generalizing items record with
  | nil =>
    cases items with
    | nil => exact ⟨Nat.le_refl 0, nofun⟩
    | cons v items => cases h
  | cons field fields ih =>
    cases items with
    | nil =>
      rw [decodeItems] at h
      split at h
      case isTrue hfirst =>
        exact ⟨Nat.zero_le _, List.forall_mem_cons.mpr ⟨hfirst, (ih h).rest⟩⟩
      case isFalse => cases h
    | cons v items =>
      obtain ⟨next, _, h⟩ := bind_eq_ok_iff.mp h
      exact fits_cons.mpr (ih h)

/-- Items that fit are read as the members that have the names of the fields; a field without item
keeps what the record holds of it. -/
theorem decodeItems_eq_decodeMembers [DecidableEq K]
    (ofKey? : ∀ field, form.ofKey? (form.name field) = some field) (fits : form.Fits fields items)
    (nodup : fields.Nodup) (new : ∀ field ∈ fields, field ∉ given) :
    form.decodeItems total record fields items =
      form.decodeMembers given record ((fields.map form.name).zip items) := by
  induction fields generalizing items given record with
  | nil =>
    cases List.eq_nil_of_length_eq_zero (Nat.le_zero.mp fits.length)
    rfl
  | cons field fields ih =>
    obtain ⟨hfield, hfields⟩ := List.nodup_cons.mp nodup
    obtain ⟨hnew, hrest⟩ := List.forall_mem_cons.mp new
    cases items with
    | nil =>
      obtain ⟨hfirst, hends⟩ := List.forall_mem_cons.mp fits.rest
      have hrest_fits : form.Fits fields [] := ⟨Nat.zero_le _, hends⟩
      rw [decodeItems, if_pos hfirst, ih hrest_fits hfields hrest, List.zip_nil_right,
        List.zip_nil_right]
    | cons v items =>
      -- The fields to come are none of those that are given, so no name is a duplicate.
      have hcoming : ∀ other ∈ fields, other ∉ field :: given := by
        intro other hother hgiven
        rcases List.mem_cons.mp hgiven with rfl | hgiven
        · exact hfield hother
        · exact hrest other hother hgiven
      have hnext (next : S) := @ih (field :: given) items next (fits_cons.mp fits) hfields hcoming
      rw [List.map_cons, List.zip_cons_cons, decodeMembers_cons (ofKey? field), if_neg hnew]
      simp only [decodeItems, hnext]

/-- An array that fits is decoded as the object of its items under the names of the fields, and any
other array has a fault. -/
theorem decode_array [DecidableEq K] (named : form.Named) (items : List Value) :
    (form.Fits form.fields items → form.decode (.array items) =
      form.decode (.object ((form.fields.map form.name).zip items))) ∧
    (¬form.Fits form.fields items → ∃ fault, form.decode (.array items) = .error fault) := by
  constructor
  · intro fits
    exact decodeItems_eq_decodeMembers named.ofKey? fits named.nodup nofun
  · intro hnot
    cases h : form.decode (.array items) with
    | error fault => exact ⟨fault, rfl⟩
    | ok result => exact absurd (fits_of_decodeItems h) hnot

end RecordForm

namespace NodeSpec

theorem named : form.Named where
  ofKey? field := by cases field <;> decide
  nodup := by decide

/-- A node document that is an array has all its fields. -/
theorem fits_iff {items : List Value} : form.Fits form.fields items ↔ items.length = 11 := by
  have ends : ∀ count ≤ 11,
      (∀ field ∈ NodeField.all.drop count, field.isFlag = true) ↔ 11 ≤ count := by decide
  have hlength : form.Fits form.fields items ↔ 11 ≤ items.length ∧ items.length ≤ 11 :=
    @RecordForm.fits_iff_length _ _ form items 11 ends
  rw [hlength]
  omega

end NodeSpec

namespace RouteSpec

theorem named : form.Named where
  ofKey? field := by cases field <;> decide
  nodup := by decide

/-- A route document that is an array may leave out the flags at its end. -/
theorem fits_iff {items : List Value} :
    form.Fits form.fields items ↔ 8 ≤ items.length ∧ items.length ≤ 11 := by
  have ends : ∀ count ≤ 11,
      (∀ field ∈ RouteField.all.drop count, field.isFlag = true) ↔ 8 ≤ count := by decide
  exact @RecordForm.fits_iff_length _ _ form items 8 ends

end RouteSpec

namespace Loader

variable {loader : Loader} {v v' : Value} {fault : DecodeFault}

/-- The load of a node document reads no more of it than what it is decoded to. -/
theorem nodeAt_eq_of_decode (h : NodeSpec.decode v = NodeSpec.decode v') (levels : Nat)
    (path : DocumentPath) : loader.nodeAt levels path v = loader.nodeAt levels path v' := by
  cases levels with
  | zero => rfl
  | succ levels => rw [nodeAt, nodeAt, h]

theorem loadRoute_eq_of_decode (h : RouteSpec.decode v = RouteSpec.decode v') :
    loader.loadRoute v = loader.loadRoute v' := by
  rw [loadRoute, loadRoute, h]

theorem loadNode_of_decode_error (h : NodeSpec.decode v = .error fault) :
    loader.loadNode v = .error ⟨[], .decode fault⟩ := by
  rw [loadNode, nodeAt, h]
  rfl

theorem loadRoute_of_decode_error (h : RouteSpec.decode v = .error fault) :
    loader.loadRoute v = .error (.decode fault) := by
  rw [loadRoute, h]
  rfl

/-- A document by position loads as the document that gives the same values by name, or has the same
error. A node document by position has exactly eleven items and a route document eight to eleven;
any other array is refused when it is decoded. -/
theorem load_positional (loader : Loader) (items : List Value) :
    (items.length = 11 → loader.loadNode (.array items) = loader.loadNode (.object
      (["type", "skip", "multiple", "object", "format", "acceptOtherKeys", "acceptNull",
        "defaultValue", "trim", "optional", "validate"].zip items))) ∧
    (items.length ≠ 11 →
      ∃ fault, loader.loadNode (.array items) = .error ⟨[], .decode fault⟩) ∧
    (8 ≤ items.length → items.length ≤ 11 →
      loader.loadRoute (.array items) = loader.loadRoute (.object
        (["query", "body", "params", "multipleQuery", "multipleBody", "validateQuery",
          "validateBody", "validateParams", "skipQuery", "skipBody", "skipParams"].zip items))) ∧
    (items.length < 8 ∨ 11 < items.length →
      ∃ fault, loader.loadRoute (.array items) = .error (.decode fault)) := by
  obtain ⟨hnode, hnode_refused⟩ := RecordForm.decode_array NodeSpec.named items
  obtain ⟨hroute, hroute_refused⟩ := RecordForm.decode_array RouteSpec.named items
  refine ⟨fun length => ?_, fun length => ?_, fun least most => ?_, fun length => ?_⟩
  · exact nodeAt_eq_of_decode (hnode (NodeSpec.fits_iff.mpr length)) _ _
  · obtain ⟨fault, hfault⟩ := hnode_refused (mt NodeSpec.fits_iff.mp length)
    exact ⟨fault, loadNode_of_decode_error hfault⟩
  · exact loadRoute_eq_of_decode (hroute (RouteSpec.fits_iff.mpr ⟨least, most⟩))
  · obtain ⟨fault, hfault⟩ := hroute_refused fun fits => by
      have := RouteSpec.fits_iff.mp fits
      omega
    exact ⟨fault, loadRoute_of_decode_error hfault⟩

end Loader

/-! ### Tags -/

namespace Loader.Tags

/-- Several texts that are not trimmed, each of letters and digits. -/
def items : List Value :=
  [.string "string", .bool false, .bool true, .bool false, .null, .bool false, .bool false, .null,
    .bool false, .bool true, .object [("isAlphanumeric", .bool true)]]

def node : Node where
  multiple := true
  trim := false
  optional := true
  type := some .string
  rules := [{ name := "isAlphanumeric", check := .named [] }]

/-- A route document by position that ends before its last flags. -/
def routeItems : List Value :=
  [.object [("tags", .array items)], .null, .null, .bool true, .bool false, .null, .null,
    .object [("NOT_equals", .array [.object []])]]

def route : Route where
  query := some [("tags", node)]
  multipleQuery := true
  paramsRules := [{ name := "equals", negate := true, check := .named [.object []] }]

def loader : Loader := { types := FieldType.builtins }

set_option maxRecDepth 10000 in
/-- Both documents load as their keyed forms do, and with one item fewer neither does. -/
theorem load_tags :
    items.length = 11 ∧ loader.loadNode (.array items) = .ok node ∧
    (∃ fault, loader.loadNode (.array items.dropLast) = .error ⟨[], .decode fault⟩) ∧
    routeItems.length = 8 ∧ loader.loadRoute (.array routeItems) = .ok route ∧
    ∃ fault, loader.loadRoute (.array routeItems.dropLast) = .error (.decode fault) := by
  obtain ⟨hnode, -⟩ := load_positional loader items
  obtain ⟨-, hnode_refused, -⟩ := load_positional loader items.dropLast
  obtain ⟨-, -, hroute, -⟩ := load_positional loader routeItems
  obtain ⟨-, -, -, hroute_refused⟩ := load_positional loader routeItems.dropLast
  exact ⟨rfl, (hnode rfl).trans rfl, hnode_refused (by decide), rfl,
    (hroute (by decide) (by decide)).trans rfl, hroute_refused (.inl (by decide))⟩

end Loader.Tags

end ParamSchema
