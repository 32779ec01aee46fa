import ParamSchema.Proofs.Check.Conformance
import ParamSchema.Proofs.Rule.Builtin
import ParamSchema.Proofs.Value.Distinct

/-!
The order of keys in an input. With built-in types and rules, a check of a reordered input ends the
same way: with a reordered answer, or with the same fault about a reordered value
(`check_reordered`). Only a key that is not declared may be another one, since the first is refused
(`Node.Strangers`). Where nothing is copied from the input, the answer is the very same
(`check_ok_of_reordered`).
-/

namespace ParamSchema

/-- The same fault about a value in another order. -/
inductive Fault.Reordered : Fault → Fault → Prop
  | rejected (field : String) (reason : Reason) {value value' : Option Value}
    (h : Option.Rel Value.Reordered value value') :
    Reordered (.rejected field value reason) (.rejected field value' reason)
  | invalidType (field typeName : String) {v v' : Value} (h : v.Reordered v') :
    Reordered (.invalidType field v typeName) (.invalidType field v' typeName)
  | missingType (field : String) : Reordered (.missingType field) (.missingType field)
  | unknownRule (name : String) : Reordered (.unknownRule name) (.unknownRule name)

namespace Node

/-- The two faults name the first undeclared keys of one object, which the inputs hold in two orders
at the same place. -/
inductive Strangers : Node → Option Value → Option Value → Fault → Fault → Prop
  | here {node : Node} {given given' rest rest' : Members} {member member' : String × Value}
    (skip : node.skip = false) (multiple : node.multiple = false) (object : node.object = true)
    (closed : node.acceptOtherKeys = false)
    (reordered : (Value.object given).Reordered (.object given'))
    (first : node.undeclared given = member :: rest)
    (first' : node.undeclared given' = member' :: rest') :
    Strangers node (some (.object given)) (some (.object given'))
      (.rejected member.1 (some member.2) .unexpected)
      (.rejected member'.1 (some member'.2) .unexpected)
  | item {node : Node} {items items' : List Value} {v v' : Value} {e e' : Fault}
    (skip : node.skip = false) (multiple : node.multiple = true) (pair : (v, v') ∈ items.zip items')
    (strangers : Strangers node.single (some v) (some v') e e') :
    Strangers node (some (.array items)) (some (.array items')) e e'
  | field {node : Node} {field : String × Node} {given given' : Members} {e e' : Fault}
    (skip : node.skip = false) (multiple : node.multiple = false) (object : node.object = true)
    (declared : field ∈ node.fields)
    (strangers : Strangers field.2 (given.lookup field.1) (given'.lookup field.1) e e') :
    Strangers node (some (.object given)) (some (.object given')) e e'

/-- The node names its rules, and those that are registered have built-in functions. -/
def BuiltinRules (context : Context) (node : Node) : Prop :=
  ∀ rule ∈ node.rules, ∃ args, rule.check = .named args ∧
    ∀ fn, context.rules.get? rule.name = some fn → Rule.BuiltinFn fn

/-- The node copies nothing that may hold an object from its input. -/
structure CopiesNothing (node : Node) : Prop where
  skip : node.skip = false
  others : node.acceptOtherKeys = false
  leaf : node.object = false → node.type ≠ some .any

end Node

theorem Fault.Reordered.refl (e : Fault) : e.Reordered e := by
  cases e with
  | rejected field value reason => exact .rejected field reason (Value.Reordered.refl_option value)
  | invalidType field v typeName => exact .invalidType field typeName (.refl v)
  | missingType field => exact .missingType field
  | unknownRule name => exact .unknownRule name

namespace Rule

variable {context : Context} {v v' : Value} {rules : List Rule} {rule : Rule}

theorem verdict_eq_of_reordered {args : List Value} (named : rule.check = .named args)
    (builtin : ∀ fn, context.rules.get? rule.name = some fn → BuiltinFn fn)
    (h : v.Reordered v') : rule.verdict context v = rule.verdict context v' := by
  simp only [verdict, named]
  cases hget : context.rules.get? rule.name with
  | none => rfl
  | some fn => simp only [(builtin fn hget).apply_eq h]

/-- Rules with built-in functions stop at the same one, if at any. -/
theorem applyAll_alike (builtin : ∀ rule ∈ rules, ∃ args, rule.check = .named args ∧
      ∀ fn, context.rules.get? rule.name = some fn → BuiltinFn fn) (h : v.Reordered v') :
    Alike Fault.Reordered Eq (applyAll context v rules) (applyAll context v' rules) := by
  induction rules with
  | nil => exact .ok rfl
  | cons rule rest ih =>
    obtain ⟨⟨args, named, hrule⟩, hrest⟩ := List.forall_mem_cons.mp builtin
    rw [applyAll, applyAll, verdict_eq_of_reordered named hrule h]
    cases rule.verdict context v' with
    | error e => exact .error (.refl e)
    | ok b =>
      simp only [ok_bind]
      split
      · exact .error (.rejected rule.name _ (.some h))
      · exact ih hrest

end Rule

namespace Node

variable {context : Context} {node field : Node} {name key : String} {input input' : Option Value}
  {result result' : Option Value} {v v' : Value} {given given' done done' : Members}
  {E : Fault → Fault → Prop}

/-! ### Parts of a check -/

theorem checkItems_alike {check : Value → Except Fault (Option Value)} {items items' : List Value}
    (h : List.Forall₂ Value.Reordered items items')
    (each : ∀ pair ∈ items.zip items', pair.1.Reordered pair.2 →
      Alike E (Option.Rel Value.Reordered) (check pair.1) (check pair.2)) :
    Alike E (List.Forall₂ Value.Reordered) (checkItems check items) (checkItems check items') := by
  induction h with
  | nil => exact .ok .nil
  | cons hv _ ih =>
    rw [List.zip_cons_cons, List.forall_mem_cons] at each
    refine (each.1 hv).bind fun result result' _ _ hresult => ?_
    refine (ih each.2).bind fun ws ws' _ _ hws => .ok (.cons ?_ hws)
    cases hresult with
    | none => exact .refl .null
    | some hw => exact hw

theorem keepField_alike (h : Option.Rel Value.Reordered result result')
    (hdone : done.Aligned done') :
    Alike Fault.Reordered Members.Aligned (keepField key field result done)
      (keepField key field result' done') := by
  cases h with
  | none =>
    simp only [keepField]
    split
    · exact .ok hdone
    · exact .error (.refl _)
  | @some v v' hv =>
    by_cases hnull : v = .null ∧ field.acceptNull = false
    · obtain ⟨rfl, hrefused⟩ := hnull
      cases hv
      rw [keepField_null hrefused, keepField_null hrefused]
      exact .ok hdone
    · have haccepted : v = .null → field.acceptNull = true := by simpa using hnull
      have haccepted' : v' = .null → field.acceptNull = true := by
        rintro rfl
        cases hv
        exact haccepted rfl
      rw [keepField_some haccepted, keepField_some haccepted']
      exact .ok (hdone.put key hv)

theorem checkFields_alike {fields : Fields} (hE : ∀ e e', e.Reordered e' → E e e')
    (each : ∀ field ∈ fields, Alike E (Option.Rel Value.Reordered)
      (field.2.check context field.1 (given.lookup field.1))
      (field.2.check context field.1 (given'.lookup field.1)))
    (hdone : done.Aligned done') :
    Alike E Members.Aligned (checkFields context given fields done)
      (checkFields context given' fields done') := by
  induction fields generalizing done done' with
  | nil => exact .ok hdone
  | cons first rest ih =>
    obtain ⟨key, field⟩ := first
    obtain ⟨hfirst, hrest⟩ := List.forall_mem_cons.mp each
    rw [checkFields_cons, checkFields_cons]
    refine hfirst.bind fun result result' _ _ hresult => ?_
    refine ((keepField_alike hresult hdone).imp_error hE).bind ?_
    exact fun _ _ _ _ hnext => ih hrest hnext

/-- Undeclared members of reordered objects. -/
theorem undeclared_reordered (node : Node)
    (h : (Value.object given).Reordered (.object given')) :
    (Value.object (node.undeclared given)).Reordered (.object (node.undeclared given')) := by
  obtain ⟨middle, _, heq, haligned, order⟩ := Value.reordered_object_iff.mp h
  cases heq
  exact Value.reordered_object_iff.mpr
    ⟨_, _, rfl, haligned.filter fun key => !node.declares key, order.filter _⟩

theorem undeclared_eq_nil_of_reordered (h : (Value.object given).Reordered (.object given'))
    (hnone : node.undeclared given = []) : node.undeclared given' = [] := by
  have hkeys := (undeclared_reordered node h).keys_perm
  rw [hnone, List.map_nil, List.nil_perm, List.map_eq_nil_iff] at hkeys
  exact hkeys

/-- Keys that are not declared join checked ones under new keys. -/
theorem putAll_undeclared_of_declared (nodup : (given.map (·.1)).Nodup)
    (names : (done.map (·.1)).Nodup) (declared : ∀ key ∈ done.map (·.1), node.declares key = true) :
    done.putAll (node.undeclared given) = done ++ node.undeclared given := by
  refine Members.putAll_of_nodup ?_
  rw [List.map_append, List.nodup_append]
  refine ⟨names, nodup.sublist (List.filter_sublist.map _), fun key hkey other hother heq => ?_⟩
  obtain ⟨member, hmember, rfl⟩ := List.mem_map.mp hother
  have hundeclared := (mem_undeclared.mp hmember).2
  rw [← heq, declared key hkey] at hundeclared
  cases hundeclared

theorem keepOthers_alike (nodup : (given.map (·.1)).Nodup)
    (h : (Value.object given).Reordered (.object given')) (hdone : done.Aligned done')
    (names : (done.map (·.1)).Nodup) (declared : ∀ key ∈ done.map (·.1), node.declares key = true)
    (hE : node.acceptOtherKeys = false → ∀ member rest member' rest',
      node.undeclared given = member :: rest → node.undeclared given' = member' :: rest' →
        E (.rejected member.1 (some member.2) .unexpected)
          (.rejected member'.1 (some member'.2) .unexpected)) :
    Alike E (fun members members' => (Value.object members).Reordered (.object members'))
      (node.keepOthers given done) (node.keepOthers given' done') := by
  have hothers := undeclared_reordered node h
  cases haccept : node.acceptOtherKeys with
  | true =>
    have nodup' := h.keys_perm.nodup_iff.mp nodup
    have names' := hdone.keys ▸ names
    have declared' := hdone.keys ▸ declared
    rw [keepOthers_of_accept haccept, keepOthers_of_accept haccept,
      putAll_undeclared_of_declared nodup names declared,
      putAll_undeclared_of_declared nodup' names' declared']
    exact .ok (hothers.append hdone)
  | false =>
    rw [keepOthers_of_refuse haccept, keepOthers_of_refuse haccept]
    -- There are as many undeclared keys in both, so either none is reported or one of each.
    have hlength := hothers.keys_perm.length_eq
    cases hgiven : node.undeclared given with
    | nil =>
      rw [undeclared_eq_nil_of_reordered h hgiven]
      exact .ok (.object hdone.keys (Members.aligned_iff.mp hdone).2 (.refl done'))
    | cons member rest =>
      cases hgiven' : node.undeclared given' with
      | nil => simp [hgiven, hgiven'] at hlength
      | cons member' rest' => exact .error (hE haccept _ _ _ _ hgiven hgiven')

theorem checkLeaf_alike (builtin : ∀ type, node.type = some type → type.Builtin)
    (h : v.Reordered v') :
    Alike Fault.Reordered Value.Reordered (node.checkLeaf name v) (node.checkLeaf name v') := by
  unfold checkLeaf
  cases htype : node.type with
  | none => exact .error (.missingType name)
  | some type =>
    have hbuiltin := builtin type htype
    simp only [hbuiltin.accepts_eq h]
    split
    · exact .ok (hbuiltin.parse_reordered h)
    · exact .error (.invalidType name type.name h)

/-- An object takes its shape from reordered members alike, if its fields do. -/
theorem shape_object_alike (object : node.object = true) (nodup : (given.map (·.1)).Nodup)
    (h : (Value.object given).Reordered (.object given'))
    (hE : ∀ e e', e.Reordered e' → E e e')
    (each : ∀ field ∈ node.fields, Alike E (Option.Rel Value.Reordered)
      (field.2.check context field.1 (given.lookup field.1))
      (field.2.check context field.1 (given'.lookup field.1)))
    (strangers : node.acceptOtherKeys = false → ∀ member rest member' rest',
      node.undeclared given = member :: rest → node.undeclared given' = member' :: rest' →
        E (.rejected member.1 (some member.2) .unexpected)
          (.rejected member'.1 (some member'.2) .unexpected)) :
    Alike E Value.Reordered (node.shape context name (.object given))
      (node.shape context name (.object given')) := by
  simp only [shape, if_pos object]
  refine (checkFields_alike hE each (.refl [])).bind fun done done' hchecked _ hdone => ?_
  obtain ⟨kept, hkept, rfl⟩ := checkFields_eq_ok_iff.mp hchecked
  have names : ((Members.putAll [] kept).map (·.1)).Nodup := Members.nodup_putAll kept (by simp)
  have declared : ∀ key ∈ (Members.putAll [] kept).map (·.1), node.declares key = true := by
    intro key hkey
    obtain ⟨member, hmember, rfl⟩ := List.mem_map.mp hkey
    have hmember := (Members.mem_putAll hmember).resolve_right (by simp)
    exact declares_iff.mpr (hkept.keys_sublist.subset (List.mem_map_of_mem hmember))
  refine (keepOthers_alike nodup h hdone names declared strangers).bind ?_
  exact fun _ _ _ _ hmembers => .ok hmembers

/-! ### Whole checks -/

theorem readsAsNull_eq_of_reordered (node : Node) (h : v.Reordered v') :
    node.readsAsNull v = node.readsAsNull v' := by
  cases h <;> rfl

/-- With a blank input, a reordered one is blank, and the same stands in for it. -/
theorem Blank.of_reordered (blank : node.Blank input)
    (h : Option.Rel Value.Reordered input input') :
    node.Blank input' ∧ node.standIn input' = node.standIn input := by
  cases h with
  | none => exact ⟨blank, rfl⟩
  | some hv =>
    refine ⟨?_, rfl⟩
    rintro v' ⟨⟩
    rw [← readsAsNull_eq_of_reordered node hv]
    exact blank _ rfl

/-- The faults of a check on reordered inputs: the same one on a reordered value, or two keys that
an object does not declare. -/
def Apart (node : Node) (input input' : Option Value) (e e' : Fault) : Prop :=
  e.Reordered e' ∨ Strangers node input input' e e'

theorem check_array_alike {items items' : List Value} (skip : node.skip = false)
    (multiple : node.multiple = true) (h : List.Forall₂ Value.Reordered items items')
    (each : ∀ pair ∈ items.zip items', pair.1.Reordered pair.2 →
      Alike (Apart node.single (some pair.1) (some pair.2)) (Option.Rel Value.Reordered)
        (node.single.check context name (some pair.1))
        (node.single.check context name (some pair.2))) :
    Alike (Apart node (some (.array items)) (some (.array items'))) (Option.Rel Value.Reordered)
      (node.check context name (some (.array items)))
      (node.check context name (some (.array items'))) := by
  rw [check_array skip multiple, check_array skip multiple]
  refine (checkItems_alike h fun pair hpair hv => ?_).bind fun ws ws' _ _ hws => ?_
  · exact (each pair hpair hv).imp_error fun e e' he => he.imp id (.item skip multiple hpair)
  · exact .ok (.some (.array hws))

theorem shape_alike (skip : node.skip = false) (multiple : node.multiple = false)
    (builtin : node.BuiltinLeaf) (distinct : v.Distinct) (h : v.Reordered v')
    (each : ∀ field ∈ node.fields, ∀ input input', (∀ v ∈ input, v.Distinct) →
      Option.Rel Value.Reordered input input' →
        Alike (Apart field.2 input input') (Option.Rel Value.Reordered)
          (field.2.check context field.1 input) (field.2.check context field.1 input')) :
    Alike (Apart node (some v) (some v')) Value.Reordered (node.shape context name v)
      (node.shape context name v') := by
  cases object : node.object with
  | false =>
    rw [shape_leaf object, shape_leaf object]
    exact (checkLeaf_alike (fun type => builtin type skip object) h).imp_error fun _ _ => .inl
  | true =>
    by_cases hgiven : ∃ given, v = .object given
    · obtain ⟨given, rfl⟩ := hgiven
      obtain ⟨_, given', rfl, _, _⟩ := Value.reordered_object_iff.mp h
      have nodup := (Value.distinct_object_iff.mp distinct).1
      refine shape_object_alike object nodup h (fun _ _ => .inl) (fun field hfield => ?_) ?_
      · have hfields := each field hfield _ _ (distinct.lookup field.1) (h.lookup nodup field.1)
        exact hfields.imp_error fun e e' he => he.imp id (.field skip multiple object hfield)
      · exact fun closed _ _ _ _ first first' =>
          .inr (.here skip multiple object closed h first first')
    · have hnot : ∀ given, v ≠ .object given := by simpa using hgiven
      rw [shape_notObject object hnot, shape_notObject object (h.ne_object hnot)]
      exact .error (.inl (.rejected name _ (.some h)))

theorem check_alike (builtin : node.Everywhere BuiltinLeaf)
    (rules : node.Everywhere (BuiltinRules context)) (distinct : ∀ v ∈ input, v.Distinct)
    (h : Option.Rel Value.Reordered input input') :
    Alike (Apart node input input') (Option.Rel Value.Reordered) (node.check context name input)
      (node.check context name input') := by
  induction node using induct generalizing name input input' with
  | h node fields items =>
    cases skip : node.skip with
    | true =>
      rw [check_of_skip skip, check_of_skip skip]
      exact .ok h
    | false =>
      rcases node.blank_or_present input with hblank | ⟨v, rfl, hpresent⟩
      · obtain ⟨hblank', hstandIn⟩ := hblank.of_reordered h
        rw [check_of_blank skip hblank, check_of_blank skip hblank', hstandIn]
        exact .ok (Value.Reordered.refl_option _)
      · obtain ⟨v', rfl, hv⟩ := Value.reordered_some_iff.mp h
        have hdistinct : v.Distinct := distinct v rfl
        have hpresent' := readsAsNull_eq_of_reordered node hv ▸ hpresent
        cases multiple : node.multiple with
        | true =>
          by_cases hitems : ∃ values, v = .array values
          · obtain ⟨values, rfl⟩ := hitems
            obtain ⟨values', rfl, heach⟩ := Value.reordered_array_iff.mp hv
            refine check_array_alike skip multiple heach fun pair hpair hv => ?_
            have hmem := (List.of_mem_zip hpair).1
            exact items multiple (builtin.single builtin.here) (rules.single rules.here)
              (by simpa using Value.distinct_array_iff.mp hdistinct _ hmem) (.some hv)
          · have hnot : ∀ values, v ≠ .array values := by simpa using hitems
            rw [check_notArray skip multiple hpresent hnot,
              check_notArray skip multiple hpresent' (hv.ne_array hnot)]
            exact .error (.inl (.rejected name _ (.some hv)))
        | false =>
          rw [check_of_item skip multiple hpresent, check_of_item skip multiple hpresent']
          have hfields := fun field hfield input input' =>
            @fields field hfield field.1 input input' (builtin.field hfield) (rules.field hfield)
          -- The rules see shaped values, which may be reordered too.
          refine (shape_alike skip multiple builtin.here hdistinct hv hfields).bind ?_
          intro w w' _ _ hw
          have hrules := Rule.applyAll_alike rules.here hw
          refine (hrules.imp_error fun _ _ => .inl).bind ?_
          exact fun _ _ _ _ _ => .ok (.some hw)

/-! ### The same answer -/

/-- Members of another input are kept alike if every field answers for it what it did. -/
theorem FieldsKept.imp {fields : Fields} {kept : Members} (h : FieldsKept context given fields kept)
    (answers : ∀ field ∈ fields, ∀ result,
      field.2.check context field.1 (given.lookup field.1) = .ok result →
        field.2.check context field.1 (given'.lookup field.1) = .ok result) :
    FieldsKept context given' fields kept := by
  induction h with
  | nil => exact .nil
  | omitted checked optional _ ih =>
    obtain ⟨hfirst, hrest⟩ := List.forall_mem_cons.mp answers
    exact .omitted (hfirst _ checked) optional (ih hrest)
  | dropped checked refused _ ih =>
    obtain ⟨hfirst, hrest⟩ := List.forall_mem_cons.mp answers
    exact .dropped (hfirst _ checked) refused (ih hrest)
  | kept checked accepted _ ih =>
    obtain ⟨hfirst, hrest⟩ := List.forall_mem_cons.mp answers
    exact .kept (hfirst _ checked) accepted (ih hrest)

theorem items_of_reordered {check : Value → Except Fault (Option Value)}
    {items items' : List Value} {results : List (Option Value)}
    (h : List.Forall₂ Value.Reordered items items')
    (answers : ∀ v ∈ items, ∀ v' result, v.Reordered v' → check v = .ok result →
      check v' = .ok result)
    (each : List.Forall₂ (fun v result => check v = .ok result) items results) :
    List.Forall₂ (fun v result => check v = .ok result) items' results := by
  induction h generalizing results with
  | nil =>
    cases each
    exact .nil
  | cons hv _ ih =>
    obtain ⟨hfirst, hrest⟩ := List.forall_mem_cons.mp answers
    cases each with
    | cons hchecked each => exact .cons (hfirst _ _ hv hchecked) (ih hrest each)

theorem Shapes.of_reordered (builtin : node.BuiltinLeaf) (copies : node.CopiesNothing)
    (distinct : v.Distinct) (h : v.Reordered v')
    (fields : ∀ field ∈ node.fields, ∀ input input' result, (∀ v ∈ input, v.Distinct) →
      Option.Rel Value.Reordered input input' →
        field.2.check context field.1 input = .ok result →
          field.2.check context field.1 input' = .ok result)
    (shapes : node.Shapes context v w) : node.Shapes context v' w := by
  cases shapes with
  | leaf object typed accepted =>
    have hbuiltin := builtin _ copies.skip object typed
    have hany : _ ≠ FieldType.any := fun heq => copies.leaf object (typed.trans (congrArg some heq))
    obtain rfl := hbuiltin.eq_of_accepts hany h accepted
    exact .leaf object typed accepted
  | @object given kept object hkept others =>
    obtain ⟨_, given', rfl, _, _⟩ := Value.reordered_object_iff.mp h
    have nodup := (Value.distinct_object_iff.mp distinct).1
    -- Nothing is copied, so the members are those of the fields, in the order of the schema.
    have hnone := others copies.others
    have hnone' := undeclared_eq_nil_of_reordered h hnone
    have hkept' : FieldsKept context given' node.fields kept := by
      refine hkept.imp fun field hfield result hchecked => ?_
      have hdistinct := distinct.lookup field.1
      exact fields field hfield _ _ result hdistinct (h.lookup nodup field.1) hchecked
    have hshapes : node.Shapes context (.object given') _ := .object object hkept' fun _ => hnone'
    rw [hnone'] at hshapes
    rwa [hnone]

theorem check_ok_of_reordered (builtin : node.Everywhere BuiltinLeaf)
    (copies : node.Everywhere CopiesNothing) (distinct : ∀ v ∈ input, v.Distinct)
    (h : Option.Rel Value.Reordered input input')
    (hcheck : node.check context name input = .ok result) :
    node.check context name input' = .ok result := by
  induction node using induct generalizing name input input' result with
  | h node fields items =>
    cases check_eq_ok_iff.mp hcheck with
    | skipped skip =>
      rw [copies.here.skip] at skip
      cases skip
    | blank skip hblank =>
      obtain ⟨hblank', hstandIn⟩ := hblank.of_reordered h
      rw [check_of_blank skip hblank', hstandIn]
    | @array values results skip multiple each =>
      obtain ⟨_, rfl, hv⟩ := Value.reordered_some_iff.mp h
      obtain ⟨values', rfl, heach⟩ := Value.reordered_array_iff.mp hv
      have hdistinct := Value.distinct_array_iff.mp (distinct _ rfl)
      refine check_eq_ok_iff.mpr (.array skip multiple ?_)
      refine items_of_reordered heach (fun v hmem v' result hv hchecked => ?_) each
      have hcopies : node.single.CopiesNothing :=
        ⟨copies.here.skip, copies.here.others, copies.here.leaf⟩
      exact items multiple (builtin.single builtin.here) (copies.single hcopies)
        (by simpa using hdistinct v hmem) (.some hv) hchecked
    | item skip multiple present shapes met =>
      obtain ⟨v', rfl, hv⟩ := Value.reordered_some_iff.mp h
      have hpresent' := readsAsNull_eq_of_reordered node hv ▸ present
      have hshapes := shapes.of_reordered builtin.here copies.here (distinct _ rfl) hv
        fun field hfield input input' result =>
          fields field hfield (builtin.field hfield) (copies.field hfield)
      exact check_eq_ok_iff.mpr (.item skip multiple hpresent' hshapes met)

/-- Checks of reordered inputs end alike: both succeed, with reordered answers or, if nothing is
copied, with the same one, or both find the same fault on reordered values, or both find a key that
an object does not declare. -/
theorem check_reordered (builtin : node.Everywhere BuiltinLeaf)
    (rules : node.Everywhere (BuiltinRules context)) (distinct : ∀ v ∈ input, v.Distinct)
    (h : Option.Rel Value.Reordered input input') :
    Alike (fun e e' => e.Reordered e' ∨ Strangers node input input' e e')
      (fun result result' => Option.Rel Value.Reordered result result' ∧
        (node.Everywhere CopiesNothing → result = result'))
      (node.check context name input) (node.check context name input') := by
  refine (check_alike builtin rules distinct h).imp (fun _ _ he => he) ?_
  intro result result' hresult hresult' hreordered
  refine ⟨hreordered, fun copies => ?_⟩
  have hsame := check_ok_of_reordered builtin copies distinct h hresult
  exact Except.ok.inj (hsame.symm.trans hresult')

/-! ### A ticket -/

namespace Ticket

def row : Node where
  type := some .string
  rules := [{ name := "isIn", check := .named [.array [.string "A", .string "B"]] }]

def seats : Node :=
  { Node.ofFields [("row", row), ("number", .leaf .integer)] with multiple := true }

def ticket : Node := .ofFields [("holder", .leaf .string), ("seats", seats)]

theorem everywhere {P : Node → Prop}
    (h : ∀ inner ∈ [ticket, .leaf .string, seats, row, .leaf .integer], P inner) :
    ticket.Everywhere P := by
  simp only [List.forall_mem_cons] at h
  obtain ⟨hticket, hholder, hseats, hrow, hnumber, _⟩ := h
  have hfields : seats.Everywhere P := by
    refine .of_fields hseats ?_
    simp only [seats, ofFields, List.forall_mem_cons]
    exact ⟨.of_leaf rfl hrow, .of_leaf rfl hnumber, by simp⟩
  refine .of_fields hticket ?_
  simp only [ticket, ofFields, List.forall_mem_cons]
  exact ⟨.of_leaf rfl hholder, hfields, by simp⟩

def sent : Value :=
  .object [("holder", .string "Ann"),
    ("seats", .array [.object [("row", .string "B"), ("number", .string "7")]])]

def shuffled : Value :=
  .object [("seats", .array [.object [("number", .string "7"), ("row", .string "B")]]),
    ("holder", .string "Ann")]

def stored : Value :=
  .object [("holder", .string "Ann"),
    ("seats", .array [.object [("row", .string "B"),
      ("number", .number (.whole ⟨7, by decide, by decide⟩))]])]

theorem sent_reordered : sent.Reordered shuffled := by
  have hseat : (Value.object [("row", .string "B"), ("number", .string "7")]).Reordered
      (.object [("number", .string "7"), ("row", .string "B")]) :=
    .object rfl (.cons (.refl _) (.cons (.refl _) .nil)) (.swap _ _ _)
  have hseats := Value.Reordered.array (.cons hseat .nil)
  have hholder := (Members.Aligned.refl []).put "holder" (.refl (.string "Ann"))
  exact Value.reordered_object_iff.mpr ⟨_, _, rfl, hholder.put "seats" hseats, .swap _ _ _⟩

set_option maxRecDepth 10000 in
theorem check_sent : ticket.check .builtins "ticket" (some sent) = .ok (some stored) := rfl

/-- A ticket is stored in one way, whatever the order of its keys. -/
theorem check_shuffled :
    ticket.check .builtins "ticket" (some shuffled) = .ok (some stored) := by
  have builtin : ticket.Everywhere BuiltinLeaf := everywhere (by
    simp [BuiltinLeaf, ticket, seats, row, leaf, ofFields, FieldType.Builtin.string,
      FieldType.Builtin.integer])
  have rules : ticket.Everywhere (BuiltinRules .builtins) := everywhere (by
    simpa [BuiltinRules, ticket, seats, row, leaf, ofFields, Rule.builtins_rules]
      using fun _ => Rule.builtinFn_of_get?)
  have copies : ticket.Everywhere CopiesNothing := everywhere (by
    have hstring : some FieldType.string ≠ some .any := by
      simp [FieldType.string, FieldType.any]
    have hinteger : some FieldType.integer ≠ some .any := by
      simp [FieldType.integer, FieldType.any]
    have hticket : ticket.CopiesNothing := ⟨rfl, rfl, fun hleaf => by cases hleaf⟩
    have hseats : seats.CopiesNothing := ⟨rfl, rfl, fun hleaf => by cases hleaf⟩
    simp only [List.forall_mem_cons]
    exact ⟨hticket, ⟨rfl, rfl, fun _ => hstring⟩, hseats, ⟨rfl, rfl, fun _ => hstring⟩,
      ⟨rfl, rfl, fun _ => hinteger⟩, by simp⟩)
  have distinct : ∀ v ∈ some sent, v.Distinct := by simp [sent]
  have halike := @check_reordered .builtins ticket "ticket" _ _ builtin rules distinct
    (.some sent_reordered)
  rw [check_sent] at halike
  generalize ticket.check .builtins "ticket" (some shuffled) = answer at halike
  cases halike with
  | ok h => exact congrArg _ (h.2 copies).symm

end Ticket

end Node

end ParamSchema
