import ParamSchema.Proofs.Check.Outcome

/-!
Why and where a check ends in a fault. A `Place` is a node with the name and the input that it has
in a check, `Place.Reaches` leads to the places below after all that a check looks at earlier has
passed, and `Place.Raises` lists the faults that arise at a place itself. The fault of a check is
the one that is raised at a place it reaches (`check_eq_error_iff`).
-/

namespace ParamSchema

namespace Node

variable {context : Context} {node : Node} {name : String} {v : Value} {given done : Members}
  {e : Fault}

/-- A declared field passes: it comes to a value, or to nothing if it may be missing. -/
def Passes (context : Context) (given : Members) (field : String × Node) : Prop :=
  ∃ result, field.2.check context field.1 (given.lookup field.1) = .ok result ∧
    (result = none → field.2.optional = true)

/-- The fault that ends the check of the fields at a field: its own, or that it is missing. -/
def Stops (context : Context) (given : Members) (field : String × Node) (e : Fault) : Prop :=
  field.2.check context field.1 (given.lookup field.1) = .error e ∨
    field.2.check context field.1 (given.lookup field.1) = .ok none ∧
      field.2.optional = false ∧ e = .rejected field.1 none .required

theorem passes_or_stops (context : Context) (given : Members) (field : String × Node) :
    Passes context given field ∨ ∃ e, Stops context given field e := by
  cases h : field.2.check context field.1 (given.lookup field.1) with
  | error e => exact .inr ⟨e, .inl h⟩
  | ok result =>
    by_cases hmissing : result = none ∧ field.2.optional = false
    · obtain ⟨rfl, hrequired⟩ := hmissing
      exact .inr ⟨_, .inr ⟨h, hrequired, rfl⟩⟩
    · exact .inl ⟨result, h, by simpa using hmissing⟩

theorem not_passes_of_stops {field : String × Node} (h : Stops context given field e) :
    ¬Passes context given field := by
  rintro ⟨result, hresult, hmissing⟩
  rcases h with h | ⟨hnone, hrequired, _⟩
  · cases hresult.symm.trans h
  · cases hresult.symm.trans hnone
    exact Bool.false_ne_true (hrequired.symm.trans (hmissing rfl))

theorem checkFields_cons_of_passes {field : String × Node} (h : Passes context given field)
    (rest : Fields) (done : Members) : ∃ done', checkFields context given (field :: rest) done =
      checkFields context given rest done' := by
  obtain ⟨key, field⟩ := field
  obtain ⟨result, hchecked, hmissing⟩ := h
  suffices ∃ done', keepField key field result done = .ok done' by
    obtain ⟨done', hdone'⟩ := this
    exact ⟨done', by rw [checkFields_cons, hchecked, ok_bind, hdone', ok_bind]⟩
  cases result with
  | none => exact ⟨done, keepField_none (hmissing rfl)⟩
  | some v =>
    by_cases hnull : v = .null ∧ field.acceptNull = false
    · exact ⟨done, hnull.1 ▸ keepField_null hnull.2⟩
    · exact ⟨_, keepField_some (by simpa using hnull)⟩

theorem checkFields_cons_of_stops {field : String × Node} (h : Stops context given field e)
    (rest : Fields) (done : Members) :
    checkFields context given (field :: rest) done = .error e := by
  obtain ⟨key, field⟩ := field
  rcases h with h | ⟨h, hrequired, rfl⟩
  · rw [checkFields_cons, h, error_bind]
  · rw [checkFields_cons, h, ok_bind, keepField, if_neg (hrequired ▸ Bool.false_ne_true),
      error_bind]

/-- The first field that does not pass ends the check of the fields. -/
theorem checkFields_eq_error_iff {fields : Fields} :
    checkFields context given fields done = .error e ↔ ∃ before field after,
      fields = before ++ field :: after ∧ (∀ earlier ∈ before, Passes context given earlier) ∧
        Stops context given field e := by
  constructor
  · intro h
    induction fields generalizing done with
    | nil => cases h
    | cons field rest ih =>
      rcases passes_or_stops context given field with hpasses | ⟨e', hstops⟩
      · obtain ⟨done', hdone'⟩ := checkFields_cons_of_passes hpasses rest done
        rw [hdone'] at h
        obtain ⟨before, stop, after, rfl, hbefore, hstop⟩ := ih h
        exact ⟨field :: before, stop, after, rfl,
          List.forall_mem_cons.mpr ⟨hpasses, hbefore⟩, hstop⟩
      · cases (checkFields_cons_of_stops hstops rest done).symm.trans h
        exact ⟨[], field, rest, rfl, by simp, hstops⟩
  · rintro ⟨before, field, after, rfl, hbefore, hstops⟩
    induction before generalizing done with
    | nil => exact checkFields_cons_of_stops hstops after done
    | cons first before ih =>
      obtain ⟨hfirst, hbefore⟩ := List.forall_mem_cons.mp hbefore
      obtain ⟨done', hdone'⟩ := checkFields_cons_of_passes hfirst (before ++ field :: after) done
      rw [List.cons_append, hdone']
      exact ih hbefore

theorem checkFields_eq_ok_iff_passes {fields : Fields} :
    (∃ result, checkFields context given fields done = .ok result) ↔
      ∀ field ∈ fields, Passes context given field := by
  induction fields generalizing done with
  | nil => simp [checkFields]
  | cons field rest ih =>
    rcases passes_or_stops context given field with hpasses | ⟨e, hstops⟩
    · obtain ⟨done', hdone'⟩ := checkFields_cons_of_passes hpasses rest done
      rw [hdone', ih, List.forall_mem_cons, and_iff_right hpasses]
    · rw [checkFields_cons_of_stops hstops, List.forall_mem_cons]
      exact ⟨fun ⟨_, h⟩ => by (cases h), fun h => absurd h.1 (not_passes_of_stops hstops)⟩

/-- The first key that is not declared is refused, if other keys are not accepted. -/
theorem keepOthers_eq_error_iff :
    node.keepOthers given done = .error e ↔ node.acceptOtherKeys = false ∧
      ∃ before member after, given = before ++ member :: after ∧
        (∀ earlier ∈ before, node.declares earlier.1 = true) ∧ node.declares member.1 = false ∧
          e = .rejected member.1 (some member.2) .unexpected := by
  cases haccept : node.acceptOtherKeys with
  | true => simp [keepOthers_of_accept haccept]
  | false =>
    rw [keepOthers_of_refuse haccept, and_iff_right rfl]
    constructor
    · intro h
      cases hothers : node.undeclared given with
      | nil =>
        rw [hothers] at h
        cases h
      | cons member rest =>
        rw [hothers] at h
        obtain ⟨before, after, rfl, hbefore, hmember, _⟩ := List.filter_eq_cons_iff.mp hothers
        exact ⟨before, member, after, rfl, by simpa using hbefore, by simpa using hmember,
          by cases h; rfl⟩
    · rintro ⟨before, member, after, rfl, hbefore, hmember, rfl⟩
      have hothers : node.undeclared (before ++ member :: after) =
          member :: node.undeclared after :=
        List.filter_eq_cons_iff.mpr
          ⟨before, after, rfl, by simpa using hbefore, by simpa using hmember, rfl⟩
      rw [hothers]

/-- The fault of an object: that of the first declaration that does not pass or, once all of them
have, of the first key that is not declared. -/
inductive ObjectFault (context : Context) (node : Node) (given : Members) : Fault → Prop
  | field {before after : Fields} {field : String × Node} {e : Fault}
    (fields : node.fields = before ++ field :: after)
    (passed : ∀ earlier ∈ before, Passes context given earlier)
    (stops : Stops context given field e) : ObjectFault context node given e
  | unexpected {before after : Members} {member : String × Value}
    (passed : ∀ field ∈ node.fields, Passes context given field)
    (closed : node.acceptOtherKeys = false) (members : given = before ++ member :: after)
    (declared : ∀ earlier ∈ before, node.declares earlier.1 = true)
    (undeclared : node.declares member.1 = false) :
    ObjectFault context node given (.rejected member.1 (some member.2) .unexpected)

theorem shape_object_eq_error_iff (object : node.object = true) :
    node.shape context name (.object given) = .error e ↔ node.ObjectFault context given e := by
  rw [shape_object object]
  constructor
  · intro h
    rcases bind_eq_error_iff.mp h with h | ⟨done, hdone, h⟩
    · obtain ⟨before, field, after, hfields, hpassed, hstops⟩ := checkFields_eq_error_iff.mp h
      exact .field hfields hpassed hstops
    · rcases bind_eq_error_iff.mp h with h | ⟨_, _, h⟩
      · obtain ⟨closed, before, member, after, hgiven, hdeclared, hmember, rfl⟩ :=
          keepOthers_eq_error_iff.mp h
        exact .unexpected (checkFields_eq_ok_iff_passes.mp ⟨done, hdone⟩) closed hgiven hdeclared
          hmember
      · cases h
  · intro h
    cases h with
    | field fields passed stops =>
      rw [checkFields_eq_error_iff.mpr ⟨_, _, _, fields, passed, stops⟩, error_bind]
    | unexpected passed closed members declared undeclared =>
      obtain ⟨done, hdone⟩ : ∃ done, checkFields context given node.fields [] = .ok done :=
        checkFields_eq_ok_iff_passes.mpr passed
      have hothers : node.keepOthers given done = .error _ :=
        keepOthers_eq_error_iff.mpr ⟨closed, _, _, _, members, declared, undeclared, rfl⟩
      rw [hdone, ok_bind, hothers, error_bind]

end Node

/-- A place in a check: a node, and the name and the input that it has there. -/
structure Place where
  node : Node
  name : String
  input : Option Value

namespace Place

def check (context : Context) (place : Place) : Except Fault (Option Value) :=
  place.node.check context place.name place.input

/-- The node of the place checks the value `v`: it does not skip it, and `v` does not come to
nothing. -/
structure Holds (place : Place) (v : Value) : Prop where
  input : place.input = some v
  skip : place.node.skip = false
  present : place.node.readsAsNull v = false

/-- The node of the place checks the members `given` of an object. -/
structure HoldsObject (place : Place) (given : Members) : Prop extends
    place.Holds (.object given) where
  multiple : place.node.multiple = false
  object : place.node.object = true

/-- The check of a place comes to another one below it: to an item of an array once the items
before have passed, or to a declared field once the fields before have. -/
inductive Below (context : Context) (place : Place) : Place → Prop
  | item {before after : List Value} {v : Value}
    (holds : place.Holds (.array (before ++ v :: after))) (multiple : place.node.multiple = true)
    (passed : ∀ u ∈ before, ∃ result,
      place.node.single.check context place.name (some u) = .ok result) :
    Below context place ⟨place.node.single, place.name, some v⟩
  | field {given : Members} {before after : Fields} {field : String × Node}
    (holds : place.HoldsObject given) (fields : place.node.fields = before ++ field :: after)
    (passed : ∀ earlier ∈ before, Node.Passes context given earlier) :
    Below context place ⟨field.2, field.1, given.lookup field.1⟩

/-- The check of a place comes to another one, some steps below. -/
inductive Reaches (context : Context) : Place → Place → Prop
  | here (place : Place) : Reaches context place place
  | step {place next goal : Place} (first : place.Below context next)
    (more : Reaches context next goal) : Reaches context place goal

/-- A fault arises at a place itself, once all that is checked there earlier has passed. -/
inductive Raises (context : Context) (place : Place) : Fault → Prop
  | notArray {v : Value} (holds : place.Holds v) (multiple : place.node.multiple = true)
    (notArray : ∀ items, v ≠ .array items) :
    Raises context place (.rejected place.name (some v) .notArray)
  | notObject {v : Value} (holds : place.Holds v) (multiple : place.node.multiple = false)
    (object : place.node.object = true) (notObject : ∀ given, v ≠ .object given) :
    Raises context place (.rejected place.name (some v) .notObject)
  | missingType {v : Value} (holds : place.Holds v) (multiple : place.node.multiple = false)
    (object : place.node.object = false) (untyped : place.node.type = none) :
    Raises context place (.missingType place.name)
  | invalidType {v : Value} {type : FieldType} (holds : place.Holds v)
    (multiple : place.node.multiple = false) (object : place.node.object = false)
    (typed : place.node.type = some type) (refused : type.accepts v = false) :
    Raises context place (.invalidType place.name v type.name)
  | required {given : Members} {before after : Fields} {field : String × Node}
    (holds : place.HoldsObject given) (fields : place.node.fields = before ++ field :: after)
    (passed : ∀ earlier ∈ before, Node.Passes context given earlier)
    (nothing : field.2.check context field.1 (given.lookup field.1) = .ok none)
    (required : field.2.optional = false) :
    Raises context place (.rejected field.1 none .required)
  | unexpected {before after : Members} {member : String × Value}
    (holds : place.HoldsObject (before ++ member :: after))
    (passed : ∀ field ∈ place.node.fields,
      Node.Passes context (before ++ member :: after) field)
    (closed : place.node.acceptOtherKeys = false)
    (declared : ∀ earlier ∈ before, place.node.declares earlier.1 = true)
    (undeclared : place.node.declares member.1 = false) :
    Raises context place (.rejected member.1 (some member.2) .unexpected)
  /-- The first rule that is not met, on the value that the node makes of its input. -/
  | rule {v w : Value} {before after : List Rule} {rule : Rule} {e : Fault}
    (holds : place.Holds v) (multiple : place.node.multiple = false)
    (shapes : place.node.Shapes context v w) (rules : place.node.rules = before ++ rule :: after)
    (met : ∀ earlier ∈ before, earlier.Met context w) (breaks : rule.Breaks context w e) :
    Raises context place e

variable {context : Context} {place next goal : Place} {v w : Value} {given : Members} {e : Fault}

/-! ### One place -/

theorem Holds.check_item (holds : place.Holds v) (multiple : place.node.multiple = false) :
    place.check context = do
      let checked ← place.node.shape context place.name v
      Rule.applyAll context checked place.node.rules
      return some checked := by
  rw [check, holds.input, Node.check_of_item holds.skip multiple holds.present]

theorem Holds.check_array {items : List Value} (holds : place.Holds (.array items))
    (multiple : place.node.multiple = true) :
    place.check context = do
      return some (.array (← Node.checkItems
        (fun v => place.node.single.check context place.name (some v)) items)) := by
  rw [check, holds.input, Node.check_array holds.skip multiple]

theorem Holds.check_of_shape (holds : place.Holds v) (multiple : place.node.multiple = false)
    (h : place.node.shape context place.name v = .error e) : place.check context = .error e := by
  rw [holds.check_item multiple, h, error_bind]

theorem HoldsObject.check_of_fault (holds : place.HoldsObject given)
    (h : place.node.ObjectFault context given e) : place.check context = .error e :=
  holds.check_of_shape holds.multiple ((Node.shape_object_eq_error_iff holds.object).mpr h)

/-- A fault that arises at a place is the fault of its check. -/
theorem Raises.check (h : place.Raises context e) : place.check context = .error e := by
  cases h with
  | notArray holds multiple notArray =>
    rw [Place.check, holds.input, Node.check_notArray holds.skip multiple holds.present notArray]
  | notObject holds multiple object notObject =>
    exact holds.check_of_shape multiple (Node.shape_notObject object notObject)
  | missingType holds multiple object untyped =>
    exact holds.check_of_shape multiple (by simp [Node.shape_leaf object, Node.checkLeaf, untyped])
  | invalidType holds multiple object typed refused =>
    exact holds.check_of_shape multiple
      (by simp [Node.shape_leaf object, Node.checkLeaf, typed, refused])
  | required holds fields passed nothing required =>
    exact holds.check_of_fault (.field fields passed (.inr ⟨nothing, required, rfl⟩))
  | unexpected holds passed closed declared undeclared =>
    exact holds.check_of_fault (.unexpected passed closed rfl declared undeclared)
  | rule holds multiple shapes rules met breaks =>
    have hrules := Rule.applyAll_eq_error_iff.mpr ⟨_, _, _, rules, met, breaks⟩
    rw [holds.check_item multiple, Node.shape_eq_ok_iff.mpr shapes, ok_bind, hrules, error_bind]

/-- The fault of a place below is the fault of the place. -/
theorem Below.check (h : place.Below context next) (he : next.check context = .error e) :
    place.check context = .error e := by
  cases h with
  | @item before after v holds multiple passed =>
    have hitems := Node.checkItems_eq_error_iff.mpr ⟨before, v, after, rfl, passed, he⟩
    rw [holds.check_array multiple, hitems, error_bind]
  | field holds fields passed => exact holds.check_of_fault (.field fields passed (.inl he))

/-- The place holds a value that it checks, unless its check finds no fault. -/
theorem holds_of_check (h : place.check context = .error e) : ∃ v, place.Holds v := by
  obtain ⟨node, name, input⟩ := place
  cases hskip : node.skip with
  | true => cases (Node.check_of_skip hskip).symm.trans h
  | false =>
    rcases node.blank_or_present input with hblank | ⟨v, rfl, hpresent⟩
    · cases (Node.check_of_blank hskip hblank).symm.trans h
    · exact ⟨v, rfl, hskip, hpresent⟩

/-- The fault of an object arises there or at a declared field. -/
theorem HoldsObject.raises_or_below (holds : place.HoldsObject given)
    (h : place.node.shape context place.name (.object given) = .error e) :
    place.Raises context e ∨ ∃ next, place.Below context next ∧ next.check context = .error e := by
  cases (Node.shape_object_eq_error_iff holds.object).mp h with
  | field fields passed stops =>
    rcases stops with hstops | ⟨hnone, hrequired, rfl⟩
    · exact .inr ⟨_, .field holds fields passed, hstops⟩
    · exact .inl (.required holds fields passed hnone hrequired)
  | unexpected passed closed members declared undeclared =>
    subst members
    exact .inl (.unexpected holds passed closed declared undeclared)

/-- The fault of a place arises there or at a place below. -/
theorem raises_or_below (h : place.check context = .error e) :
    place.Raises context e ∨ ∃ next, place.Below context next ∧ next.check context = .error e := by
  obtain ⟨v, holds⟩ := holds_of_check h
  cases multiple : place.node.multiple with
  | true =>
    by_cases harray : ∃ items, v = .array items
    · obtain ⟨items, rfl⟩ := harray
      rw [holds.check_array multiple] at h
      rcases bind_eq_error_iff.mp h with h | ⟨_, _, h⟩
      · obtain ⟨before, v, after, rfl, hbefore, hv⟩ := Node.checkItems_eq_error_iff.mp h
        exact .inr ⟨_, .item holds multiple hbefore, hv⟩
      · cases h
    · have hnotArray : ∀ items, v ≠ .array items := by simpa using harray
      rw [Place.check, holds.input,
        Node.check_notArray holds.skip multiple holds.present hnotArray] at h
      cases h
      exact .inl (.notArray holds multiple hnotArray)
  | false =>
    rw [holds.check_item multiple] at h
    rcases bind_eq_error_iff.mp h with h | ⟨w, hw, h⟩
    · cases object : place.node.object with
      | true =>
        by_cases hobject : ∃ given, v = .object given
        · obtain ⟨given, rfl⟩ := hobject
          exact HoldsObject.raises_or_below ⟨holds, multiple, object⟩ h
        · have hnotObject : ∀ given, v ≠ .object given := by simpa using hobject
          cases (Node.shape_notObject object hnotObject).symm.trans h
          exact .inl (.notObject holds multiple object hnotObject)
      | false =>
        rw [Node.shape_leaf object, Node.checkLeaf_eq_error_iff] at h
        rcases h with ⟨huntyped, rfl⟩ | ⟨type, htyped, hrefused, rfl⟩
        · exact .inl (.missingType holds multiple object huntyped)
        · exact .inl (.invalidType holds multiple object htyped hrefused)
    · rcases bind_eq_error_iff.mp h with h | ⟨_, _, h⟩
      · obtain ⟨before, rule, after, hrules, hbefore, hbreaks⟩ := Rule.applyAll_eq_error_iff.mp h
        exact .inl (.rule holds multiple (Node.shape_eq_ok_iff.mp hw) hrules hbefore hbreaks)
      · cases h

/-! ### All places -/

/-- The fault of a place that the check reaches is the fault of the check. -/
theorem Reaches.check (h : Reaches context place goal) (he : goal.check context = .error e) :
    place.check context = .error e := by
  induction h with
  | here place => exact he
  | step first _ ih => exact first.check (ih he)

/-! ### Faults of the schema -/

variable {field rule : String} {P : Node → Prop}

theorem Below.everywhere (h : place.Below context next) (hsingle : ∀ node, P node → P node.single)
    (hplace : place.node.Everywhere P) : next.node.Everywhere P := by
  cases h with
  | item => exact hplace.single (hsingle _ hplace.here)
  | @field _ _ _ field _ fields _ => exact hplace.field (fields ▸ List.mem_append_cons_self)

/-- What holds of every node of a tree holds at every place that a check of the tree reaches. -/
theorem Reaches.everywhere (h : Reaches context place goal)
    (hsingle : ∀ node, P node → P node.single) (hplace : place.node.Everywhere P) :
    goal.node.Everywhere P := by
  induction h with
  | here place => exact hplace
  | step first _ ih => exact ih (first.everywhere hsingle hplace)

theorem Raises.of_missingType (h : place.Raises context (.missingType field)) :
    place.node.skip = false ∧ place.node.object = false ∧ place.node.type = none := by
  cases h with
  | missingType holds _ object untyped => exact ⟨holds.skip, object, untyped⟩
  | rule _ _ _ _ _ breaks => cases breaks

theorem Raises.of_unknownRule (h : place.Raises context (.unknownRule rule)) :
    place.node.NamesRule rule ∧ context.rules.get? rule = none := by
  cases h with
  | @rule _ _ before after broken _ _ _ _ rules _ breaks =>
    cases breaks with
    | @unknown args named unregistered =>
      have hmem : broken ∈ place.node.rules := rules ▸ List.mem_append_cons_self
      exact ⟨⟨broken, hmem, rfl, args, named⟩, unregistered⟩

end Place

namespace Node

variable {context : Context} {node : Node} {name : String} {input : Option Value} {e : Fault}

/-- The fault of a check is raised at a place that the check reaches. -/
theorem exists_raises (h : node.check context name input = .error e) :
    ∃ goal, Place.Reaches context ⟨node, name, input⟩ goal ∧ goal.Raises context e := by
  induction node using induct generalizing name input with
  | h node fields single =>
    have hplace : Place.check context ⟨node, name, input⟩ = .error e := h
    rcases Place.raises_or_below hplace with hraises | ⟨next, hbelow, hnext⟩
    · exact ⟨_, .here _, hraises⟩
    · -- The place below has a field of the node or the node of its items.
      have hgoal : ∃ goal, Place.Reaches context next goal ∧ goal.Raises context e := by
        cases hbelow with
        | item _ multiple _ => exact single multiple hnext
        | @field _ before _ field _ hfields _ =>
          have hfield : field ∈ node.fields := hfields ▸ List.mem_append_cons_self
          exact fields field hfield hnext
      obtain ⟨goal, hreaches, hraises⟩ := hgoal
      exact ⟨goal, .step hbelow hreaches, hraises⟩

/-- Where untyped leaves are skipped, no check asks for their type. -/
theorem check_ne_missingType (field : String)
    (h : node.Everywhere fun inner =>
      inner.object = false → inner.type = none → inner.skip = true) :
    node.check context name input ≠ .error (.missingType field) := by
  intro hcheck
  obtain ⟨goal, hreaches, hraises⟩ := exists_raises hcheck
  obtain ⟨hskip, hobject, htype⟩ := hraises.of_missingType
  have := (hreaches.everywhere (fun _ h => h) h).here hobject htype
  rw [hskip] at this
  cases this

/-- A rule that a check does not know is named in the tree and not registered. -/
theorem namesRule_of_check_unknownRule {rule : String}
    (h : node.check context name input = .error (.unknownRule rule)) :
    (∃ inner : Node, inner.Within node ∧ inner.NamesRule rule) ∧
      context.rules.get? rule = none := by
  obtain ⟨goal, hreaches, hraises⟩ := exists_raises h
  obtain ⟨hnames, hunregistered⟩ := hraises.of_unknownRule
  refine ⟨?_, hunregistered⟩
  by_contra hnone
  have hnot : node.Everywhere fun inner => ¬inner.NamesRule rule :=
    fun inner hinner hrule => hnone ⟨inner, hinner, hrule⟩
  exact (hreaches.everywhere (fun _ h => h) hnot).here hnames

/-- A check ends in a fault exactly if it reaches a place that raises it. -/
theorem check_eq_error_iff (context : Context) (node : Node) (name : String)
    (input : Option Value) (e : Fault) :
    node.check context name input = .error e ↔
      ∃ place, Place.Reaches context ⟨node, name, input⟩ place ∧ place.Raises context e := by
  constructor
  · exact exists_raises
  · rintro ⟨place, hreaches, hraises⟩
    exact hreaches.check hraises.check

end Node

end ParamSchema
