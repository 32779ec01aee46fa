import ParamSchema.Proofs.Check.Conformance

/-!
Checking twice. An answer of a check is checked again without change (`check_fixes`), as long as
defaults are and no skip field loses a null that it may not lose.
-/

namespace ParamSchema.Node

/-- The node answers the value itself, whatever the value is called. -/
def Fixes (context : Context) (node : Node) (v : Value) : Prop :=
  ∀ name, node.check context name (some v) = .ok (some v)

/-- Every skip field may be missing or keeps nulls. -/
def SkipsLoseNothing (node : Node) : Prop :=
  ∀ field ∈ node.fields, field.2.skip = true →
    field.2.optional = true ∨ field.2.acceptNull = true

instance (node : Node) : Decidable node.SkipsLoseNothing :=
  inferInstanceAs (Decidable (∀ field ∈ node.fields, field.2.skip = true →
    field.2.optional = true ∨ field.2.acceptNull = true))

/-- The default, if there is a usable one, is its own answer, also as an item. -/
def FixesDefault (context : Context) (node : Node) : Prop :=
  ∀ d, node.usableDefault? = some d →
    node.Fixes context d ∧ (node.multiple = true → node.single.Fixes context d)

variable {context : Context} {node : Node} {name name' key : String} {input : Option Value}
  {v w : Value} {given members kept : Members} {result : Option Value}

/-! ### Names and missing values -/

/-- The name of a value plays no part in an answer. -/
theorem check_ok_name (h : node.check context name input = .ok result) :
    node.check context name' input = .ok result := by
  induction node using induct generalizing input result with
  | h node _ items =>
    refine check_eq_ok_iff.mpr ?_
    cases check_eq_ok_iff.mp h with
    | skipped skip => exact .skipped skip
    | blank skip blank => exact .blank skip blank
    | array skip multiple each =>
      exact .array skip multiple (each.imp fun v result hv => items multiple hv)
    | item skip multiple present shapes met => exact .item skip multiple present shapes met

theorem fixes_of_check (h : node.check context name (some v) = .ok (some v)) :
    node.Fixes context v :=
  fun _ => check_ok_name h

/-- What comes to nothing is not a present value. -/
theorem blank_of_check_none (h : node.check context name input = .ok none) :
    node.skip = true ∧ input = none ∨
      node.skip = false ∧ node.Blank input ∧ node.standIn input = none := by
  generalize hanswer : none = answer at h
  cases check_eq_ok_iff.mp h with
  | skipped skip => exact .inl ⟨skip, rfl⟩
  | blank skip blank => exact .inr ⟨skip, blank, rfl⟩
  | array | item => cases hanswer

/-- If an input comes to nothing, so does a missing one. -/
theorem check_none_of_none (h : node.check context name input = .ok none) :
    node.check context name none = .ok none := by
  rcases blank_of_check_none h with ⟨skip, rfl⟩ | ⟨skip, _, hstandIn⟩
  · exact h
  · rw [check_of_blank skip node.blank_none]
    have := standIn_eq_none.mp hstandIn
    rw [standIn_eq_none.mpr ⟨this.1, by simp⟩]

/-- If a value comes to nothing, so does null. -/
theorem check_null_of_none (h : node.check context name (some v) = .ok none) :
    node.check context name (some .null) = .ok none := by
  rcases blank_of_check_none h with ⟨_, hv⟩ | ⟨skip, _, hstandIn⟩
  · cases hv
  · rw [check_of_blank skip node.blank_null]
    have := standIn_eq_none.mp hstandIn
    rw [standIn_eq_none.mpr ⟨this.1, fun _ => this.2 rfl⟩]

/-! ### Answers that are checked again -/

theorem fixes_null (skip : node.skip = false) (default : node.usableDefault? = none)
    (accepted : node.acceptNull = true) : node.Fixes context .null := by
  intro name
  rw [check_of_blank skip node.blank_null]
  simp [standIn, default, accepted]

theorem fixes_of_standIn (skip : node.skip = false) (blank : node.Blank input)
    (default : node.FixesDefault context) (h : node.standIn input = some w) :
    node.Fixes context w := by
  rcases standIn_eq_some blank h with hdefault | ⟨hdefault, rfl, haccept, _⟩
  · exact (default w hdefault).1
  · exact fixes_null skip hdefault haccept

/-- The answers of a field come out again when the object that holds them is checked: values as they
are, and a null that the object drops as nothing. -/
structure Steady (context : Context) (field : Node) : Prop where
  fixes : ∀ name input w, field.check context name input = .ok (some w) → field.Fixes context w
  dropped : ∀ name input, field.acceptNull = false →
    field.check context name input = .ok (some .null) →
      field.optional = true ∧ field.check context name none = .ok none

/-- A key that no field declares is not kept. -/
theorem FieldsKept.lookup_eq_none {fields : Fields} (h : FieldsKept context given fields kept)
    (hkey : key ∉ fields.map (·.1)) : kept.lookup key = none :=
  Entries.lookup_eq_none_iff_notMem.mpr fun hkept => hkey (h.keys_sublist.subset hkept)

/-- Members that agree with the kept ones on the declared keys are kept again. -/
theorem FieldsKept.again {fields : Fields} (h : FieldsKept context given fields kept)
    (names : (fields.map (·.1)).Nodup) (steady : ∀ field ∈ fields, Steady context field.2)
    (agree : ∀ field ∈ fields, members.lookup field.1 = kept.lookup field.1) :
    FieldsKept context members fields kept := by
  -- Names are distinct, so what agrees for all fields agrees for the rest without the first.
  induction h with
  | nil => exact .nil
  | omitted checked optional more ih =>
    obtain ⟨hkey, names⟩ := List.nodup_cons.mp names
    obtain ⟨_, steady⟩ := List.forall_mem_cons.mp steady
    obtain ⟨hagree, agree⟩ := List.forall_mem_cons.mp agree
    refine .omitted ?_ optional (ih names steady agree)
    rw [hagree, more.lookup_eq_none hkey]
    exact check_none_of_none checked
  | dropped checked refused more ih =>
    obtain ⟨hkey, names⟩ := List.nodup_cons.mp names
    obtain ⟨hsteady, steady⟩ := List.forall_mem_cons.mp steady
    obtain ⟨hagree, agree⟩ := List.forall_mem_cons.mp agree
    obtain ⟨optional, hnone⟩ := hsteady.dropped _ _ refused checked
    refine .omitted ?_ optional (ih names steady agree)
    rw [hagree, more.lookup_eq_none hkey]
    exact hnone
  | @kept key field v rest kept checked accepted more ih =>
    obtain ⟨hkey, names⟩ := List.nodup_cons.mp names
    obtain ⟨hsteady, steady⟩ := List.forall_mem_cons.mp steady
    obtain ⟨hagree, agree⟩ := List.forall_mem_cons.mp agree
    refine .kept ?_ accepted (ih names steady fun f hf => ?_)
    · rw [hagree, List.lookup_cons_self]
      exact hsteady.fixes _ _ _ checked _
    · have hne : f.1 ≠ key := fun heq => hkey (heq ▸ List.mem_map_of_mem (f := (·.1)) hf)
      rw [agree f hf, Entries.lookup_cons_of_ne v kept hne]

/-- The keys of a result that are not declared are the copied ones. -/
theorem undeclared_result {extra : Members} (hkept : FieldsKept context given node.fields kept)
    (hextra : ∀ member ∈ extra, node.declares member.1 = false) :
    node.undeclared (kept ++ extra) = extra := by
  have hnone : node.undeclared kept = [] := by
    refine List.filter_eq_nil_iff.mpr fun member hmember => ?_
    have := declares_iff.mpr (hkept.keys_sublist.subset (List.mem_map_of_mem hmember))
    simp [this]
  have hall : node.undeclared extra = extra :=
    List.filter_eq_self.mpr fun member hmember => by simp [hextra member hmember]
  calc node.undeclared (kept ++ extra)
      = node.undeclared kept ++ node.undeclared extra := List.filter_append ..
    _ = extra := by rw [hnone, hall, List.nil_append]

/-- The value that an object makes of an input is the one that it makes of this value. -/
theorem shapes_again (object : node.object = true) (once : node.DeclaresOnce)
    (steady : ∀ field ∈ node.fields, Steady context field.2)
    (shapes : node.Shapes context v w) : node.Shapes context w w := by
  cases shapes with
  | leaf leaf => simp [object] at leaf
  | @object given kept _ hkept others =>
    have hnames := once object
    have hextra : ∀ member ∈ Members.putAll [] (node.undeclared given),
        node.declares member.1 = false := fun member hmember =>
      (mem_undeclared.mp ((Members.mem_putAll hmember).resolve_right (by simp))).2
    have hclosed : node.acceptOtherKeys = false →
        Members.putAll [] (node.undeclared given) = [] := fun hrefused => by
      rw [others hrefused, Members.putAll_nil]
    have hnodup : ((Members.putAll [] (kept ++ node.undeclared given)).map (·.1)).Nodup :=
      Members.nodup_putAll _ (by simp)
    rw [putAll_undeclared hnames hkept] at hnodup ⊢
    generalize Members.putAll [] (node.undeclared given) = extra at hextra hclosed hnodup ⊢
    -- The second check finds the kept members under the declared keys and copies the others.
    have hagain : FieldsKept context (kept ++ extra) node.fields kept := by
      refine hkept.again hnames steady fun field hfield => ?_
      have hnone : extra.lookup field.1 = none := by
        refine Entries.lookup_eq_none_iff_notMem.mpr fun hkey => ?_
        obtain ⟨member, hmember, heq⟩ := List.mem_map.mp hkey
        have := hextra member hmember
        rw [heq, declares_of_mem hfield] at this
        cases this
      rw [List.lookup_append, hnone, Option.or_none]
    have hshapes := Shapes.object object hagain fun hrefused => by
      rw [undeclared_result hkept hextra, hclosed hrefused]
    have hall : Members.putAll [] (kept ++ extra) = kept ++ extra := Members.putAll_of_nodup hnodup
    rwa [undeclared_result hkept hextra, hall] at hshapes

/-- The built-in types give values that are parsed again without change. -/
theorem leaf_again {type : FieldType} (builtin : type.Builtin) (object : node.object = false)
    (typed : node.type = some type) (accepted : type.accepts v = true)
    (present : node.readsAsNull v = false) :
    node.readsAsNull (type.parse v) = false ∧
      node.Shapes context (type.parse v) (type.parse v) := by
  constructor
  · rcases builtin.parse_eq_or accepted with hparse | ⟨n, hparse⟩ | ⟨b, hparse⟩
    · rw [hparse, present]
    · rw [hparse]
      rfl
    · rw [hparse]
      rfl
  · have : node.Shapes context _ _ := .leaf object typed (builtin.accepts_parse accepted)
    rwa [builtin.parse_parse accepted] at this

/-- Items that are checked again one by one are checked again as an array. -/
theorem items_again {check : Value → Except Fault (Option Value)} {items : List Value}
    {results : List (Option Value)}
    (again : ∀ v result, check v = .ok result → check (result.getD .null) = .ok result)
    (each : List.Forall₂ (fun v result => check v = .ok result) items results) :
    List.Forall₂ (fun v result => check v = .ok result) (results.map (·.getD .null)) results := by
  induction each with
  | nil => exact .nil
  | cons hv _ ih => exact .cons (again _ _ hv) ih

theorem steady_of_fixes (builtin : node.BuiltinLeaf)
    (skips : node.skip = true → node.optional = true ∨ node.acceptNull = true)
    (fixes : ∀ name input w, node.check context name input = .ok (some w) →
      node.Fixes context w) : node.Steady context where
  fixes := fixes
  dropped name input refused h := by
    rcases check_null builtin h with ⟨skip, rfl⟩ | haccept
    · exact ⟨(skips skip).resolve_right (by simp [refused]), check_of_skip skip⟩
    · rw [refused] at haccept
      cases haccept

/-- An answer of a check is answered again: with built-in types, no name declared twice, defaults
that are their own answers and no skip field that may lose a null, checking brings a value into a
form that a second check leaves as it is, the order of keys included. -/
theorem check_fixes (builtin : node.Everywhere BuiltinLeaf) (once : node.Everywhere DeclaresOnce)
    (skips : node.Everywhere SkipsLoseNothing) (defaults : node.Everywhere (FixesDefault context))
    (h : node.check context name input = .ok (some w)) : node.Fixes context w := by
  induction node using induct generalizing name input w with
  | h node fields items =>
    generalize hanswer : some w = answer at h
    cases check_eq_ok_iff.mp h with
    | skipped skip => exact fun _ => check_of_skip skip
    | blank skip blank => exact fixes_of_standIn skip blank defaults.here hanswer.symm
    | @array values results skip multiple each =>
      cases hanswer
      suffices node.Answers context name _ (some (.array (results.map (·.getD .null)))) from
        fixes_of_check (check_eq_ok_iff.mpr this)
      -- An item that came to nothing is null in the array, and null comes to nothing again.
      refine .array skip multiple (items_again (fun v result hv => ?_) each)
      cases result with
      | none => exact check_null_of_none hv
      | some w =>
        refine items multiple (builtin.single builtin.here) (once.single once.here)
          (skips.single skips.here) (defaults.single fun d hd => ?_) hv name
        exact ⟨(defaults.here d hd).2 multiple, fun hsingle => by simp at hsingle⟩
    | @item v w skip multiple present shapes met =>
      cases hanswer
      suffices node.readsAsNull w = false ∧ node.Shapes context w w from
        fun _ => check_eq_ok_iff.mpr (.item skip multiple this.1 this.2 met)
      have hsteady : ∀ field ∈ node.fields, field.2.Steady context := fun field hfield =>
        steady_of_fixes (builtin.field hfield).here (skips.here field hfield) fun _ _ _ h =>
          fields field hfield (builtin.field hfield) (once.field hfield) (skips.field hfield)
            (defaults.field hfield) h
      cases hobject : node.object with
      | true =>
        refine ⟨?_, shapes_again hobject once.here hsteady shapes⟩
        cases shapes with
        | object => rfl
        | leaf leaf => simp [hobject] at leaf
      | false =>
        cases shapes with
        | object object => simp [hobject] at object
        | leaf leaf typed accepted =>
          exact leaf_again (builtin.here _ skip leaf typed) leaf typed accepted present

/-- What is stored of an order is stored again as it is. -/
theorem Order.fixes_stored : Order.schema.Fixes .builtins Order.stored := by
  have hskips : Order.schema.Everywhere SkipsLoseNothing := Order.everywhere (by decide)
  have hstate : Order.state.Fixes .builtins (.string "open") := fun _ => rfl
  have hdefaults : Order.schema.Everywhere (FixesDefault .builtins) := by
    refine Order.everywhere ?_
    simpa [FixesDefault, usableDefault?, Order.schema, Order.articles, Order.remark, Order.state,
      Order.buyer, Order.regular, ofFields] using fun _ => hstate
  exact check_fixes Order.builtinLeaf Order.declaresOnce hskips hdefaults Order.check_sent

end ParamSchema.Node
