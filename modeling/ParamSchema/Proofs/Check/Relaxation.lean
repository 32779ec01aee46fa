import Mathlib.Logic.Relation
import ParamSchema.Proofs.Check.Outcome

/-!
Changes of a schema that no accepted input notices. `Node.Relaxes` is one such change, at any depth:
a node becomes optional, an object accepts other keys, or a closed object declares a field that may
be missing. However many of them are made, an answer stays the answer (`check_ok_of_relaxes`).
-/

namespace ParamSchema.Node

/-- One change that makes a schema ask less of its inputs. -/
inductive Relaxes : Node → Node → Prop
  | optional (node : Node) : Relaxes node { node with optional := true }
  | acceptOtherKeys {node : Node} (object : node.object = true) :
    Relaxes node { node with acceptOtherKeys := true }
  /-- The new field stands anywhere among the others; its own tree is arbitrary. -/
  | addField {node field : Node} {key : String} {before after : Fields}
    (object : node.object = true) (closed : node.acceptOtherKeys = false)
    (fields : node.fields = before ++ after) (new : node.declares key = false)
    (optional : field.optional = true) (default : field.usableDefault? = none) :
    Relaxes node { node with fields := before ++ (key, field) :: after }
  | inField {node field field' : Node} {key : String} {before after : Fields}
    (fields : node.fields = before ++ (key, field) :: after) (relaxes : Relaxes field field') :
    Relaxes node { node with fields := before ++ (key, field') :: after }

variable {context : Context} {node node' field field' : Node} {name key : String}
  {input : Option Value} {v w : Value} {given kept : Members} {before after : Fields}

/-! ### Fields -/

theorem check_absent (default : field.usableDefault? = none) :
    field.check context name none = .ok none := by
  cases skip : field.skip with
  | true => exact check_of_skip skip
  | false =>
    rw [check_of_blank skip field.blank_none, standIn_eq_none.mpr ⟨default, by simp⟩]

/-- A field that comes to nothing and may be missing changes nothing. -/
theorem FieldsKept.insert (h : FieldsKept context given (before ++ after) kept)
    (checked : field.check context key (given.lookup key) = .ok none)
    (optional : field.optional = true) :
    FieldsKept context given (before ++ (key, field) :: after) kept := by
  induction before generalizing kept with
  | nil => exact .omitted checked optional h
  | cons first before ih =>
    cases h with
    | omitted hchecked hoptional more => exact .omitted hchecked hoptional (ih more)
    | dropped hchecked refused more => exact .dropped hchecked refused (ih more)
    | kept hchecked accepted more => exact .kept hchecked accepted (ih more)

/-- A field may give way to one that answers the same wherever it passes. -/
theorem FieldsKept.replace (h : FieldsKept context given (before ++ (key, field) :: after) kept)
    (answers : ∀ result, field.check context key (given.lookup key) = .ok result →
      field'.check context key (given.lookup key) = .ok result)
    (optional : field.optional = true → field'.optional = true)
    (nulls : field'.acceptNull = field.acceptNull) :
    FieldsKept context given (before ++ (key, field') :: after) kept := by
  induction before generalizing kept with
  | nil =>
    cases h with
    | omitted checked hoptional more => exact .omitted (answers _ checked) (optional hoptional) more
    | dropped checked refused more => exact .dropped (answers _ checked) (nulls ▸ refused) more
    | kept checked accepted more => exact .kept (answers _ checked) (nulls ▸ accepted) more
  | cons first before ih =>
    cases h with
    | omitted checked hoptional more => exact .omitted checked hoptional (ih more)
    | dropped checked refused more => exact .dropped checked refused (ih more)
    | kept checked accepted more => exact .kept checked accepted (ih more)

/-! ### Shapes -/

theorem shapes_single : node.single.Shapes context v w ↔ node.Shapes context v w := by
  have hshape : node.single.shape context "" v = node.shape context "" v := rfl
  rw [← shape_eq_ok_iff, hshape, shape_eq_ok_iff]

/-- A key that a closed object does not declare is not in an input that it accepts. -/
theorem lookup_undeclared (others : node.undeclared given = []) (new : node.declares key = false) :
    given.lookup key = none := by
  refine Entries.lookup_eq_none_iff_notMem.mpr fun hkey => ?_
  obtain ⟨member, hmember, rfl⟩ := List.mem_map.mp hkey
  have hother : member ∈ node.undeclared given := mem_undeclared.mpr ⟨hmember, new⟩
  rw [others] at hother
  cases hother

theorem Shapes.acceptOtherKeys (shapes : node.Shapes context v w) :
    Shapes context { node with acceptOtherKeys := true } v w := by
  cases shapes with
  | object object fields others => exact .object object fields nofun
  | leaf object typed accepted => exact .leaf object typed accepted

theorem not_declares_of_addField {k : String} (fields : node.fields = before ++ after)
    (h : declares { node with fields := before ++ (key, field) :: after } k = false) :
    node.declares k = false := by
  rw [Bool.eq_false_iff, ne_eq, declares_iff] at h ⊢
  rw [fields]
  rw [List.map_append, List.mem_append] at *
  exact fun hk => h (hk.imp id (List.mem_cons_of_mem _))

theorem Shapes.addField (closed : node.acceptOtherKeys = false)
    (fields : node.fields = before ++ after) (new : node.declares key = false)
    (optional : field.optional = true) (default : field.usableDefault? = none)
    (shapes : node.Shapes context v w) :
    Shapes context { node with fields := before ++ (key, field) :: after } v w := by
  cases shapes with
  | leaf object typed accepted => exact .leaf object typed accepted
  | @object given kept object hkept others =>
    have hnone := others closed
    have hmore : undeclared { node with fields := before ++ (key, field) :: after } given = [] := by
      refine List.eq_nil_iff_forall_not_mem.mpr fun member hmember => ?_
      obtain ⟨hmember, hdeclares⟩ := mem_undeclared.mp hmember
      have hother : member ∈ node.undeclared given :=
        mem_undeclared.mpr ⟨hmember, (not_declares_of_addField fields hdeclares)⟩
      rw [hnone] at hother
      cases hother
    -- The input has no key that the node does not declare, so it does not have the new one.
    have hchecked : field.check context key (given.lookup key) = .ok none := by
      rw [lookup_undeclared hnone new]
      exact check_absent default
    have hshapes : Shapes context { node with fields := before ++ (key, field) :: after } _ _ :=
      .object object ((fields ▸ hkept).insert hchecked optional) fun _ => hmore
    rw [hmore] at hshapes
    rwa [hnone]

theorem Shapes.inField (fields : node.fields = before ++ (key, field) :: after)
    (answers : ∀ name input result, field.check context name input = .ok result →
      field'.check context name input = .ok result)
    (optional : field.optional = true → field'.optional = true)
    (nulls : field'.acceptNull = field.acceptNull) (shapes : node.Shapes context v w) :
    Shapes context { node with fields := before ++ (key, field') :: after } v w := by
  cases shapes with
  | leaf object typed accepted => exact .leaf object typed accepted
  | @object given kept object hkept others =>
    have hsame : undeclared { node with fields := before ++ (key, field') :: after } given =
        node.undeclared given := by
      simp [undeclared, declares, fields]
    have hshapes : Shapes context { node with fields := before ++ (key, field') :: after } _ _ :=
      .object object ((fields ▸ hkept).replace (answers _ _) optional nulls)
        fun closed => hsame ▸ others closed
    rwa [hsame] at hshapes

/-! ### Answers -/

/-- Answers depend on the fields, on other keys and on whether the node may be missing only through
the shapes that the node gives its items. -/
theorem check_of_shapes {fields : Fields} {acceptOtherKeys optional : Bool}
    {result : Option Value}
    (shapes : ∀ v w, node.Shapes context v w →
      Shapes context { node with fields, acceptOtherKeys, optional } v w)
    (h : node.check context name input = .ok result) :
    check context { node with fields, acceptOtherKeys, optional } name input = .ok result := by
  induction node using induct generalizing input result with
  | h node _ items =>
    refine check_eq_ok_iff.mpr ?_
    cases check_eq_ok_iff.mp h with
    | skipped skip => exact .skipped skip
    | blank skip blank => exact .blank skip blank
    | item skip multiple present hshapes met =>
      exact .item skip multiple present (shapes _ _ hshapes) met
    | array skip multiple each =>
      refine .array skip multiple (each.imp fun v result hv => items multiple (fun v w hs => ?_) hv)
      exact shapes_single.mpr (shapes v w (shapes_single.mp hs))

theorem Relaxes.optional_imp (h : Relaxes node node') (optional : node.optional = true) :
    node'.optional = true := by
  cases h with
  | optional => rfl
  | acceptOtherKeys | addField | inField => exact optional

theorem Relaxes.acceptNull_eq (h : Relaxes node node') : node'.acceptNull = node.acceptNull := by
  cases h <;> rfl

/-- One change keeps an answer. -/
theorem Relaxes.check (h : Relaxes node node') {result : Option Value}
    (hcheck : node.check context name input = .ok result) :
    node'.check context name input = .ok result := by
  induction h generalizing name input result with
  | optional node =>
    refine check_of_shapes (fun v w shapes => ?_) hcheck
    cases shapes with
    | object object fields others => exact .object object fields others
    | leaf object typed accepted => exact .leaf object typed accepted
  | acceptOtherKeys object =>
    exact check_of_shapes (fun v w shapes => shapes.acceptOtherKeys) hcheck
  | addField object closed fields new optional default =>
    exact check_of_shapes (fun v w shapes => shapes.addField closed fields new optional default)
      hcheck
  | inField fields relaxes ih =>
    exact check_of_shapes (fun v w shapes => shapes.inField fields (fun _ _ _ => ih)
      relaxes.optional_imp relaxes.acceptNull_eq) hcheck

/-- A schema may be relaxed in any number of places: what it answered before it answers again. -/
theorem check_ok_of_relaxes (h : Relation.ReflTransGen Relaxes node node')
    {result : Option Value} (hcheck : node.check context name input = .ok result) :
    node'.check context name input = .ok result := by
  induction h with
  | refl => exact hcheck
  | tail _ step ih => exact step.check ih

/-! ### A parcel -/

namespace Parcel

def label : Node := { Node.ofFields [("text", .leaf .string)] with multiple := true }

def labelPlus : Node := { label with acceptOtherKeys := true }

def weight : Node := .leaf .integer

def anyWeight : Node := { weight with optional := true }

/-- A country stands in for a missing one, but a parcel without an origin does not come to one. -/
def origin : Node where
  object := true
  fields := [("country", { Node.leaf .string with defaultValue := some (.string "NL") })]
  optional := true

def parcel : Node := .ofFields [("labels", label), ("weight", weight)]

def parcelPlus : Node where
  object := true
  fields := [("labels", labelPlus), ("origin", origin), ("weight", anyWeight)]
  acceptOtherKeys := true

theorem parcel_relaxes : Relation.ReflTransGen Relaxes parcel parcelPlus := by
  have hlabels : Relaxes parcel (.ofFields [("labels", labelPlus), ("weight", weight)]) :=
    @Relaxes.inField parcel label labelPlus "labels" [] [("weight", weight)] rfl
      (.acceptOtherKeys rfl)
  have horigin : Relaxes (.ofFields [("labels", labelPlus), ("weight", weight)])
      (.ofFields [("labels", labelPlus), ("origin", origin), ("weight", weight)]) :=
    @Relaxes.addField _ origin "origin" [("labels", labelPlus)] [("weight", weight)] rfl rfl rfl
      (by decide) rfl rfl
  have hweight : Relaxes (.ofFields [("labels", labelPlus), ("origin", origin), ("weight", weight)])
      (.ofFields [("labels", labelPlus), ("origin", origin), ("weight", anyWeight)]) :=
    @Relaxes.inField _ weight anyWeight "weight" [("labels", labelPlus), ("origin", origin)] [] rfl
      (.optional weight)
  exact .tail (.tail (.tail (.single hlabels) horigin) hweight) (.acceptOtherKeys rfl)

def sent : Value :=
  .object [("weight", .string "2"), ("labels", .array [.object [("text", .string "top")], .null])]

def stored : Value :=
  .object [("labels", .array [.object [("text", .string "top")], .null]),
    ("weight", .number (.whole ⟨2, by decide, by decide⟩))]

set_option maxRecDepth 10000 in
theorem check_parcel : parcel.check .builtins "parcel" (some sent) = .ok (some stored) := rfl

/-- What was stored of a parcel is stored of it again. -/
theorem check_parcelPlus : parcelPlus.check .builtins "parcel" (some sent) = .ok (some stored) :=
  check_ok_of_relaxes parcel_relaxes check_parcel

end Parcel

end ParamSchema.Node
