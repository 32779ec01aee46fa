import Mathlib.Data.List.Forall2
import ParamSchema.Proofs.Fallible
import ParamSchema.Proofs.Node.Tree
import ParamSchema.Proofs.Rule.Conjunction
import ParamSchema.Proofs.Value.Members

/-!
What a check that finds no fault answers. `Node.Answers` lists the ways in which a node comes to an
answer, one step down the tree, and `check_eq_ok_iff` says that these are the answers of
`Node.check`. In it the items of an array are checked by `Node.single`.
-/

namespace ParamSchema.Node

variable {context : Context} {node field : Node} {name key : String} {input : Option Value}
  {v w : Value} {given done : Members}

/-! ### Inputs that come to nothing -/

/-- There is no input, or it counts as null. -/
def Blank (node : Node) (input : Option Value) : Prop :=
  ∀ v ∈ input, node.readsAsNull v = true

/-- What stands in for an input that is blank. -/
def standIn (node : Node) (input : Option Value) : Option Value :=
  node.usableDefault?.or (if input.isSome && node.acceptNull then some .null else none)

theorem blank_none (node : Node) : node.Blank none := by
  intro v hv
  cases hv

theorem blank_some_iff : node.Blank (some v) ↔ node.readsAsNull v = true := by
  simp [Blank]

theorem blank_null (node : Node) : node.Blank (some .null) := blank_some_iff.mpr rfl

theorem blank_or_present (node : Node) (input : Option Value) :
    node.Blank input ∨ ∃ v, input = some v ∧ node.readsAsNull v = false := by
  cases input with
  | none => exact .inl node.blank_none
  | some v =>
    cases h : node.readsAsNull v with
    | true => exact .inl (blank_some_iff.mpr h)
    | false => exact .inr ⟨v, rfl, h⟩

theorem intake_of_present (h : node.readsAsNull v = false) :
    node.intake (some v) = .present v := by
  simp [intake, Option.filter, h]

theorem intake_of_blank (h : node.Blank input) :
    node.intake input = .settled (node.standIn input) := by
  have hfilter : (input.filter fun v => !node.readsAsNull v) = none := by
    cases input with
    | none => rfl
    | some v => simp [h v rfl]
  rw [intake, hfilter, standIn]
  cases node.usableDefault? with
  | some d => rfl
  | none => cases input.isSome && node.acceptNull <;> rfl

theorem standIn_eq_some (blank : node.Blank input) (h : node.standIn input = some w) :
    node.usableDefault? = some w ∨ node.usableDefault? = none ∧ w = .null ∧
      node.acceptNull = true ∧ ∃ v, input = some v ∧ node.readsAsNull v = true := by
  unfold standIn at h
  cases hdefault : node.usableDefault? with
  | some d => exact .inl (by simpa [hdefault] using h)
  | none =>
    cases input with
    | none => simp [hdefault] at h
    | some v =>
      obtain ⟨haccept, rfl⟩ : node.acceptNull = true ∧ Value.null = w := by simpa [hdefault] using h
      exact .inr ⟨rfl, rfl, haccept, v, rfl, blank v rfl⟩

theorem standIn_eq_none : node.standIn input = none ↔
    node.usableDefault? = none ∧ (input.isSome = true → node.acceptNull = false) := by
  cases hdefault : node.usableDefault? <;> simp [standIn, hdefault]

theorem usableDefault?_ne_null : node.usableDefault? ≠ some .null := Value.filter_ne_null _

theorem readsAsNull_array (items : List Value) : node.readsAsNull (.array items) = false := rfl

/-! ### Fields -/

/-- Checking the fields in order against the members of an object keeps the members `kept`. -/
inductive FieldsKept (context : Context) (given : Members) : Fields → Members → Prop
  | nil : FieldsKept context given [] []
  | omitted {key : String} {field : Node} {rest : Fields} {kept : Members}
    (checked : field.check context key (given.lookup key) = .ok none)
    (optional : field.optional = true) (more : FieldsKept context given rest kept) :
    FieldsKept context given ((key, field) :: rest) kept
  | dropped {key : String} {field : Node} {rest : Fields} {kept : Members}
    (checked : field.check context key (given.lookup key) = .ok (some .null))
    (refused : field.acceptNull = false) (more : FieldsKept context given rest kept) :
    FieldsKept context given ((key, field) :: rest) kept
  | kept {key : String} {field : Node} {v : Value} {rest : Fields} {kept : Members}
    (checked : field.check context key (given.lookup key) = .ok (some v))
    (accepted : v = .null → field.acceptNull = true)
    (more : FieldsKept context given rest kept) :
    FieldsKept context given ((key, field) :: rest) ((key, v) :: kept)

theorem keepField_some (accepted : v = .null → field.acceptNull = true) :
    keepField key field (some v) done = .ok (done.put key v) := by
  cases v <;> simp_all [keepField]

theorem keepField_null (refused : field.acceptNull = false) :
    keepField key field (some .null) done = .ok done := by
  simp [keepField, refused]

theorem keepField_none (optional : field.optional = true) :
    keepField key field none done = .ok done := by
  simp [keepField, optional]

theorem checkFields_cons {rest : Fields} :
    checkFields context given ((key, field) :: rest) done =
      field.check context key (given.lookup key) >>= fun result =>
        keepField key field result done >>= checkFields context given rest := rfl

theorem FieldsKept.checkFields {fields : Fields} {kept : Members}
    (h : FieldsKept context given fields kept) (done : Members) :
    checkFields context given fields done = .ok (done.putAll kept) := by
  induction h generalizing done with
  | nil => rfl
  | omitted checked optional more ih =>
    rw [checkFields_cons, checked, ok_bind, keepField_none optional, ok_bind, ih]
  | dropped checked refused more ih =>
    rw [checkFields_cons, checked, ok_bind, keepField_null refused, ok_bind, ih]
  | kept checked accepted more ih =>
    rw [checkFields_cons, checked, ok_bind, keepField_some accepted, ok_bind, ih,
      Members.putAll_cons]

theorem checkFields_eq_ok_iff {fields : Fields} {result : Members} :
    checkFields context given fields done = .ok result ↔
      ∃ kept, FieldsKept context given fields kept ∧ result = done.putAll kept := by
  constructor
  · intro h
    induction fields generalizing done with
    | nil =>
      cases h
      exact ⟨[], .nil, rfl⟩
    | cons first rest ih =>
      obtain ⟨key, field⟩ := first
      rw [checkFields_cons] at h
      obtain ⟨answer, hchecked, h⟩ := bind_eq_ok_iff.mp h
      obtain ⟨next, hkeep, h⟩ := bind_eq_ok_iff.mp h
      obtain ⟨kept, hkept, rfl⟩ := ih h
      rcases answer with _ | v
      · cases hoptional : field.optional with
        | false => simp [keepField, hoptional] at hkeep
        | true =>
          cases (keepField_none hoptional).symm.trans hkeep
          exact ⟨kept, .omitted hchecked hoptional hkept, rfl⟩
      · by_cases hnull : v = .null ∧ field.acceptNull = false
        · obtain ⟨rfl, hrefused⟩ := hnull
          cases (keepField_null hrefused).symm.trans hkeep
          exact ⟨kept, .dropped hchecked hrefused hkept, rfl⟩
        · have haccepted : v = .null → field.acceptNull = true := by simpa using hnull
          cases (keepField_some haccepted).symm.trans hkeep
          exact ⟨(key, v) :: kept, .kept hchecked haccepted hkept, rfl⟩
  · rintro ⟨kept, hkept, rfl⟩
    exact hkept.checkFields done

theorem FieldsKept.keys_sublist {fields : Fields} {kept : Members}
    (h : FieldsKept context given fields kept) :
    (kept.map (·.1)).Sublist (fields.map (·.1)) := by
  induction h with
  | nil => exact .slnil
  | omitted _ _ _ ih | dropped _ _ _ ih => exact ih.cons _
  | kept _ _ _ ih => exact ih.cons_cons _

theorem FieldsKept.of_mem {fields : Fields} {kept : Members} {member : String × Value}
    (h : FieldsKept context given fields kept) (hmember : member ∈ kept) :
    ∃ field ∈ fields, field.1 = member.1 ∧
      field.2.check context field.1 (given.lookup field.1) = .ok (some member.2) ∧
      (member.2 = .null → field.2.acceptNull = true) := by
  induction h with
  | nil => cases hmember
  | omitted _ _ _ ih | dropped _ _ _ ih =>
    obtain ⟨field, hfield, h⟩ := ih hmember
    exact ⟨field, List.mem_cons_of_mem _ hfield, h⟩
  | kept checked accepted _ ih =>
    rcases List.mem_cons.mp hmember with rfl | hmember
    · exact ⟨_, List.mem_cons_self, rfl, checked, accepted⟩
    · obtain ⟨field, hfield, h⟩ := ih hmember
      exact ⟨field, List.mem_cons_of_mem _ hfield, h⟩

/-- A field that may not be missing is kept, unless its check answers a null that it drops. -/
theorem FieldsKept.kept_or_dropped {fields : Fields} {kept : Members} {field : String × Node}
    (h : FieldsKept context given fields kept) (hfield : field ∈ fields)
    (required : field.2.optional = false) :
    field.1 ∈ kept.map (·.1) ∨
      field.2.check context field.1 (given.lookup field.1) = .ok (some .null) ∧
        field.2.acceptNull = false := by
  induction h with
  | nil => cases hfield
  | omitted _ optional _ ih =>
    rcases List.mem_cons.mp hfield with rfl | hfield
    · exact (Bool.false_ne_true (required.symm.trans optional)).elim
    · exact ih hfield
  | dropped checked refused _ ih =>
    rcases List.mem_cons.mp hfield with rfl | hfield
    · exact .inr ⟨checked, refused⟩
    · exact ih hfield
  | kept _ _ _ ih =>
    rcases List.mem_cons.mp hfield with rfl | hfield
    · exact .inl List.mem_cons_self
    · exact (ih hfield).imp (List.mem_cons_of_mem _) id

/-! ### Keys that are not declared -/

/-- The members whose keys the node does not declare. -/
def undeclared (node : Node) (members : Members) : Members :=
  members.filter fun member => !node.declares member.1

theorem mem_undeclared {member : String × Value} :
    member ∈ node.undeclared given ↔ member ∈ given ∧ node.declares member.1 = false := by
  simp [undeclared]

theorem declares_iff : node.declares key = true ↔ key ∈ node.fields.map (·.1) := by
  simp [declares]

theorem declares_of_mem {field : String × Node} (h : field ∈ node.fields) :
    node.declares field.1 = true :=
  declares_iff.mpr (List.mem_map_of_mem h)

/-- The declared keys of a result come first, in order, if no name is declared twice. -/
theorem putAll_undeclared {kept : Members} (names : (node.fields.map (·.1)).Nodup)
    (hkept : FieldsKept context given node.fields kept) :
    Members.putAll [] (kept ++ node.undeclared given) =
      kept ++ Members.putAll [] (node.undeclared given) := by
  have hnodup : (([] ++ kept : Members).map (·.1)).Nodup := names.sublist hkept.keys_sublist
  rw [Members.putAll_append, Members.putAll_of_nodup hnodup, List.nil_append,
    Members.putAll_disjoint]
  intro member hmember hkey
  have hdeclared := declares_iff.mpr (hkept.keys_sublist.subset hkey)
  rw [(mem_undeclared.mp hmember).2] at hdeclared
  cases hdeclared

theorem keepOthers_of_accept (h : node.acceptOtherKeys = true) :
    node.keepOthers given done = .ok (done.putAll (node.undeclared given)) := by
  rw [keepOthers, if_pos h]
  rfl

theorem keepOthers_of_refuse (h : node.acceptOtherKeys = false) :
    node.keepOthers given done =
      match node.undeclared given with
      | [] => .ok done
      | (key, v) :: _ => .error (.rejected key (some v) .unexpected) := by
  rw [keepOthers, if_neg (by simp [h])]
  rfl

theorem keepOthers_eq_ok_iff {result : Members} :
    node.keepOthers given done = .ok result ↔
      (node.acceptOtherKeys = false → node.undeclared given = []) ∧
        result = done.putAll (node.undeclared given) := by
  cases h : node.acceptOtherKeys with
  | true => simp [keepOthers_of_accept h, eq_comm (a := result)]
  | false =>
    rw [keepOthers_of_refuse h]
    cases node.undeclared given <;> simp [eq_comm (a := result)]

/-! ### One item -/

/-- The value that a node makes of a present item before it applies its rules. -/
def shape (context : Context) (node : Node) (name : String) (v : Value) : Except Fault Value :=
  if node.object then
    match v with
    | .object given => do
      let done ← checkFields context given node.fields []
      pure (.object (← node.keepOthers given done))
    | v => .error (.rejected name (some v) .notObject)
  else node.checkLeaf name v

/-- The shapes that a present item takes: an object keeps its checked fields and then the keys that
are not declared, and a leaf is parsed. -/
inductive Shapes (context : Context) (node : Node) : Value → Value → Prop
  | object {given kept : Members} (object : node.object = true)
    (fields : FieldsKept context given node.fields kept)
    (others : node.acceptOtherKeys = false → node.undeclared given = []) :
    Shapes context node (.object given)
      (.object (Members.putAll [] (kept ++ node.undeclared given)))
  | leaf {type : FieldType} {v : Value} (object : node.object = false)
    (typed : node.type = some type) (accepted : type.accepts v = true) :
    Shapes context node v (type.parse v)

theorem checkLeaf_eq_ok_iff : node.checkLeaf name v = .ok w ↔
    ∃ type, node.type = some type ∧ type.accepts v = true ∧ w = type.parse v := by
  unfold checkLeaf
  cases node.type with
  | none => simp
  | some type => cases h : type.accepts v <;> simp [h, eq_comm (a := w)]

theorem checkLeaf_eq_error_iff {e : Fault} : node.checkLeaf name v = .error e ↔
    node.type = none ∧ e = .missingType name ∨
      ∃ type, node.type = some type ∧ type.accepts v = false ∧
        e = .invalidType name v type.name := by
  unfold checkLeaf
  cases node.type with
  | none => simp [eq_comm (a := e)]
  | some type => cases h : type.accepts v <;> simp [h, eq_comm (a := e)]

theorem shape_leaf (object : node.object = false) :
    node.shape context name v = node.checkLeaf name v := by
  unfold shape
  rw [if_neg (by simp [object])]

theorem shape_object (object : node.object = true) :
    node.shape context name (.object given) = do
      let done ← checkFields context given node.fields []
      return .object (← node.keepOthers given done) := by
  rw [shape, if_pos object]

theorem shape_notObject (object : node.object = true) (notObject : ∀ given, v ≠ .object given) :
    node.shape context name v = .error (.rejected name (some v) .notObject) := by
  unfold shape
  rw [if_pos object]
  cases v with
  | object given => exact absurd rfl (notObject given)
  | _ => rfl

theorem shape_eq_ok_iff : node.shape context name v = .ok w ↔ node.Shapes context v w := by
  unfold shape
  constructor
  · intro h
    cases hobject : node.object with
    | false =>
      rw [hobject] at h
      obtain ⟨type, htype, haccepts, rfl⟩ := checkLeaf_eq_ok_iff.mp h
      exact .leaf hobject htype haccepts
    | true =>
      rw [hobject] at h
      cases v with
      | object given =>
        obtain ⟨done, hdone, h⟩ := bind_eq_ok_iff.mp h
        obtain ⟨members, hmembers, h⟩ := bind_eq_ok_iff.mp h
        obtain ⟨kept, hkept, rfl⟩ := checkFields_eq_ok_iff.mp hdone
        obtain ⟨hothers, rfl⟩ := keepOthers_eq_ok_iff.mp hmembers
        cases h
        rw [← Members.putAll_append]
        exact .object hobject hkept hothers
      | _ => cases h
  · rintro (⟨hobject, hkept, hothers⟩ | ⟨hobject, htype, haccepts⟩)
    · rw [if_pos hobject]
      simp only [hkept.checkFields, ok_bind, keepOthers_eq_ok_iff.mpr ⟨hothers, rfl⟩,
        Members.putAll_append]
      rfl
    · exact (shape_leaf hobject).trans (checkLeaf_eq_ok_iff.mpr ⟨_, htype, haccepts, rfl⟩)

theorem checkItem_eq : node.checkItem context name input =
    if node.skip then .ok input
    else
      match node.intake input with
      | .settled result => .ok result
      | .present v => do
        let checked ← node.shape context name v
        Rule.applyAll context checked node.rules
        return some checked := by
  cases node with
  | mk skip multiple object fields =>
    rw [checkItem]
    cases skip with
    | true => rfl
    | false =>
      simp only [shape, Bool.false_eq_true, if_false]
      generalize intake _ input = taken
      cases taken with
      | settled result => rfl
      | present v =>
        cases object with
        | false => rfl
        | true =>
          cases v with
          | object given => simp
          | _ => rfl

/-! ### Items of an array -/

theorem checkItems_eq_ok_iff {check : Value → Except Fault (Option Value)}
    {items ws : List Value} :
    checkItems check items = .ok ws ↔
      ∃ results, List.Forall₂ (fun v result => check v = .ok result) items results ∧
        ws = results.map (·.getD .null) := by
  induction items generalizing ws with
  | nil => simp [checkItems]
  | cons v items ih =>
    simp only [checkItems, bind_eq_ok_iff, pure_eq_ok_iff, ih, List.forall₂_cons_left_iff]
    constructor
    · rintro ⟨result, hresult, _, ⟨results, hresults, rfl⟩, rfl⟩
      exact ⟨_, ⟨result, results, hresult, hresults, rfl⟩, rfl⟩
    · rintro ⟨_, ⟨result, results, hresult, hresults, rfl⟩, rfl⟩
      exact ⟨result, hresult, _, ⟨results, hresults, rfl⟩, rfl⟩

theorem checkItems_stepwise (check : Value → Except Fault (Option Value)) :
    Stepwise check (checkItems check) where
  nil := ⟨[], rfl⟩
  cons _ _ := ⟨fun result rest => result.getD .null :: rest, rfl⟩

/-- The first item that is refused ends the check of an array. -/
theorem checkItems_eq_error_iff {check : Value → Except Fault (Option Value)}
    {items : List Value} {e : Fault} :
    checkItems check items = .error e ↔ ∃ before v after, items = before ++ v :: after ∧
      (∀ u ∈ before, ∃ result, check u = .ok result) ∧ check v = .error e :=
  (checkItems_stepwise check).eq_error_iff

/-! ### The whole check -/

theorem check_of_skip (skip : node.skip = true) :
    node.check context name input = .ok input := by
  simp [check, checkShape, checkItem_eq, skip]

theorem check_of_blank (skip : node.skip = false) (blank : node.Blank input) :
    node.check context name input = .ok (node.standIn input) := by
  cases h : node.multiple <;>
    simp [check, checkShape, checkItem_eq, skip, h, intake_of_blank blank]

theorem check_of_item (skip : node.skip = false) (multiple : node.multiple = false)
    (present : node.readsAsNull v = false) :
    node.check context name (some v) = do
      let checked ← node.shape context name v
      Rule.applyAll context checked node.rules
      return some checked := by
  simp [check, checkShape, checkItem_eq, skip, multiple, intake_of_present present]

/-- An item is checked as the node checks a value when it asks for no array. -/
theorem check_single :
    node.single.check context name input = node.checkItem context name input := by
  cases node
  rfl

theorem check_array (skip : node.skip = false) (multiple : node.multiple = true)
    (items : List Value) :
    node.check context name (some (.array items)) = do
      return some (.array
        (← checkItems (fun v => node.single.check context name (some v)) items)) := by
  simp only [check_single]
  simp [check, checkShape, skip, multiple, intake_of_present (readsAsNull_array items)]

theorem check_notArray (skip : node.skip = false) (multiple : node.multiple = true)
    (present : node.readsAsNull v = false) (notArray : ∀ items, v ≠ .array items) :
    node.check context name (some v) = .error (.rejected name (some v) .notArray) := by
  cases v <;>
    simp_all [check, checkShape, intake_of_present present]

/-- The answers of a check that finds no fault. -/
inductive Answers (context : Context) (node : Node) (name : String) :
    Option Value → Option Value → Prop
  | skipped {input : Option Value} (skip : node.skip = true) :
    Answers context node name input input
  | blank {input : Option Value} (skip : node.skip = false) (blank : node.Blank input) :
    Answers context node name input (node.standIn input)
  | array {items : List Value} {results : List (Option Value)} (skip : node.skip = false)
    (multiple : node.multiple = true)
    (each : List.Forall₂ (fun v result => node.single.check context name (some v) = .ok result)
      items results) :
    Answers context node name (some (.array items)) (some (.array (results.map (·.getD .null))))
  | item {v w : Value} (skip : node.skip = false) (multiple : node.multiple = false)
    (present : node.readsAsNull v = false) (shapes : node.Shapes context v w)
    (met : ∀ rule ∈ node.rules, rule.Met context w) : Answers context node name (some v) (some w)

theorem check_eq_ok_iff {result : Option Value} :
    node.check context name input = .ok result ↔ node.Answers context name input result := by
  constructor
  · intro h
    cases skip : node.skip with
    | true =>
      cases (check_of_skip skip).symm.trans h
      exact .skipped skip
    | false =>
      rcases node.blank_or_present input with hblank | ⟨v, rfl, hpresent⟩
      · cases (check_of_blank skip hblank).symm.trans h
        exact .blank skip hblank
      · cases multiple : node.multiple with
        | true =>
          by_cases harray : ∃ items, v = .array items
          · obtain ⟨items, rfl⟩ := harray
            rw [check_array skip multiple] at h
            obtain ⟨ws, hws, h⟩ := bind_eq_ok_iff.mp h
            obtain ⟨results, hresults, rfl⟩ := checkItems_eq_ok_iff.mp hws
            cases h
            exact .array skip multiple hresults
          · rw [check_notArray skip multiple hpresent (by simpa using harray)] at h
            cases h
        | false =>
          rw [check_of_item skip multiple hpresent] at h
          obtain ⟨w, hshape, h⟩ := bind_eq_ok_iff.mp h
          obtain ⟨_, hrules, h⟩ := bind_eq_ok_iff.mp h
          cases h
          exact .item skip multiple hpresent (shape_eq_ok_iff.mp hshape)
            (Rule.applyAll_eq_ok_iff.mp hrules)
  · intro h
    cases h with
    | skipped skip => exact check_of_skip skip
    | blank skip hblank => exact check_of_blank skip hblank
    | array skip multiple each =>
      rw [check_array skip multiple, checkItems_eq_ok_iff.mpr ⟨_, each, rfl⟩]
      rfl
    | item skip multiple present shapes met =>
      rw [check_of_item skip multiple present, shape_eq_ok_iff.mpr shapes, ok_bind,
        Rule.applyAll_eq_ok_iff.mpr met]
      rfl

end ParamSchema.Node
