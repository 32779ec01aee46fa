import Mathlib.Logic.Relation
import ParamSchema.Proofs.Check.Conformance

/-!
The spellings of what is not given. `Node.Respells` says that two inputs differ in one of them at a
position that the node checks: an empty string that is trimmed for a null, or a null that is not
accepted for nothing. A check does not tell such inputs apart, nor inputs that differ at any number
of positions (`check_eq_of_respells`): its answer is the same, or its fault is.
-/

namespace ParamSchema.Node

/-- The member of an object under a key, if there is one. -/
def slot (key : String) (input : Option Value) : Members :=
  (input.map fun v => (key, v)).toList

/-- The second input is the first in another spelling at one position. Positions lead into the items
of an array and into declared fields, past no node that skips its value. -/
inductive Respells : Node → Option Value → Option Value → Prop
  | emptyText {node : Node} (skip : node.skip = false) (trim : node.trim = true) :
    Respells node (some (.string "")) (some .null)
  | null {node : Node} (skip : node.skip = false) (refused : node.acceptNull = false) :
    Respells node (some .null) none
  | item {node : Node} {before after : List Value} {v v' : Value} (skip : node.skip = false)
    (multiple : node.multiple = true) (respells : Respells node.single (some v) (some v')) :
    Respells node (some (.array (before ++ v :: after))) (some (.array (before ++ v' :: after)))
  | member {node field : Node} {key : String} {before after : Members}
    {input input' : Option Value} (skip : node.skip = false) (multiple : node.multiple = false)
    (object : node.object = true) (declared : (key, field) ∈ node.fields)
    (others : key ∉ (before ++ after).map (·.1)) (respells : Respells field input input') :
    Respells node (some (.object (before ++ slot key input ++ after)))
      (some (.object (before ++ slot key input' ++ after)))

variable {context context' : Context} {node : Node} {name key k : String}
  {input input' : Option Value} {given given' before after : Members}

/-! ### What a check reads -/

/-- The check of the fields reads an input and a context only through the answers of the fields. -/
theorem checkFields_congr {fields : Fields}
    (h : ∀ field ∈ fields, field.2.check context field.1 (given.lookup field.1) =
      field.2.check context' field.1 (given'.lookup field.1)) (done : Members) :
    checkFields context given fields done = checkFields context' given' fields done := by
  induction fields generalizing done with
  | nil => rfl
  | cons first rest ih =>
    obtain ⟨key, field⟩ := first
    obtain ⟨hfirst, hrest⟩ := List.forall_mem_cons.mp h
    rw [checkFields_cons, checkFields_cons, hfirst]
    simp only [funext (ih hrest)]

theorem shape_congr (fields : ∀ field ∈ node.fields,
      field.2.check context field.1 (given.lookup field.1) =
        field.2.check context' field.1 (given'.lookup field.1))
    (others : node.undeclared given = node.undeclared given') (object : node.object = true) :
    node.shape context name (.object given) = node.shape context' name (.object given') := by
  have hothers : ∀ done, node.keepOthers given done = node.keepOthers given' done := by
    intro done
    cases h : node.acceptOtherKeys with
    | true => rw [keepOthers_of_accept h, keepOthers_of_accept h, others]
    | false => rw [keepOthers_of_refuse h, keepOthers_of_refuse h, others]
  simp only [shape, if_pos object, checkFields_congr fields, hothers]

theorem checkItems_congr {check : Value → Except Fault (Option Value)} {v v' : Value}
    (h : check v = check v') (before after : List Value) :
    checkItems check (before ++ v :: after) = checkItems check (before ++ v' :: after) := by
  induction before with
  | nil => simp only [List.nil_append, checkItems, h]
  | cons first before ih => simp only [List.cons_append, checkItems, ih]

/-! ### Members with one key apart -/

theorem lookup_slot_self (others : key ∉ (before ++ after).map (·.1)) (input : Option Value) :
    (before ++ slot key input ++ after).lookup key = input := by
  rw [List.map_append, List.mem_append, not_or] at others
  have hbefore : before.lookup key = none := Entries.lookup_eq_none_iff_notMem.mpr others.1
  have hafter : after.lookup key = none := Entries.lookup_eq_none_iff_notMem.mpr others.2
  rw [List.lookup_append, List.lookup_append, hbefore, hafter]
  cases input <;> simp [slot]

theorem lookup_slot_of_ne (h : k ≠ key) (input : Option Value) :
    (before ++ slot key input ++ after).lookup k = (before ++ after).lookup k := by
  have hslot : (slot key input).lookup k = none :=
    Entries.lookup_eq_none_iff_notMem.mpr (by cases input <;> simp [slot, h])
  rw [List.lookup_append, List.lookup_append, List.lookup_append, hslot, Option.or_none]

theorem undeclared_slot (declared : node.declares key = true) (input : Option Value) :
    node.undeclared (before ++ slot key input ++ after) = node.undeclared (before ++ after) := by
  have hslot : node.undeclared (slot key input) = [] := by
    cases input <;> simp [slot, undeclared, declared]
  simp only [undeclared, List.filter_append] at hslot ⊢
  rw [hslot, List.append_nil]

/-! ### Spellings -/

/-- One spelling for another changes neither an answer nor a fault. -/
theorem Respells.check_eq (h : Respells node input input') (once : node.Everywhere DeclaresOnce) :
    node.check context name input = node.check context name input' := by
  induction h generalizing name with
  | @emptyText node skip trim =>
    have htext : node.Blank (some (.string "")) := blank_some_iff.mpr (by simpa [readsAsNull])
    rw [check_of_blank skip htext, check_of_blank skip node.blank_null]
    rfl
  | @null node skip refused =>
    rw [check_of_blank skip node.blank_null, check_of_blank skip node.blank_none]
    simp [standIn, refused]
  | @item node before after v v' skip multiple _ ih =>
    have hv : node.single.check context name (some v) = node.single.check context name (some v') :=
      ih (once.single once.here)
    rw [check_array skip multiple, check_array skip multiple, checkItems_congr hv]
  | @member node field key before after input input' skip multiple object declared others _ ih =>
    rw [check_of_item skip multiple rfl, check_of_item skip multiple rfl]
    have hkey := declares_of_mem declared
    rw [shape_congr ?fields ?others object]
    case others => rw [undeclared_slot hkey, undeclared_slot hkey]
    case fields =>
      intro other hother
      by_cases heq : other.1 = key
      · -- No name is declared twice, so this is the field whose input is spelled in two ways.
        cases List.inj_on_of_nodup_map (once.here object) hother declared heq
        rw [lookup_slot_self others, lookup_slot_self others]
        exact ih (once.field declared)
      · rw [lookup_slot_of_ne heq, lookup_slot_of_ne heq]

/-- If no name is declared twice, a check treats all spellings of what is not given alike. -/
theorem check_eq_of_respells (once : node.Everywhere DeclaresOnce)
    (h : Relation.EqvGen (Respells node) input input') :
    node.check context name input = node.check context name input' := by
  induction h with
  | rel _ _ step => exact step.check_eq once
  | refl _ => rfl
  | symm _ _ _ ih => exact ih.symm
  | trans _ _ _ _ _ first second => exact first.trans second

namespace Order

/-- An order with its state as null, an empty text for an article, and null for an empty text. -/
def resent : Value :=
  .object [("source", .null), ("buyer", .object [("regular", .null)]), ("remark", .null),
    ("articles", .array [.string "42", .string ""]), ("state", .null)]

theorem resent_respells : Relation.EqvGen (Respells schema) (some resent) (some sent) := by
  have hstate := @Respells.member schema state "state"
    [("source", .null), ("buyer", .object [("regular", .null)]), ("remark", .null),
      ("articles", .array [.string "42", .string ""])] [] (some .null) none
    rfl rfl rfl (by simp [schema]) (by simp) (.null rfl rfl)
  have harticle := @Respells.member schema articles "articles"
    [("source", .null), ("buyer", .object [("regular", .null)]), ("remark", .null)] [] _ _
    rfl rfl rfl (by simp [schema]) (by simp)
    (@Respells.item articles [.string "42"] [] _ _ rfl rfl (.emptyText rfl rfl))
  have hbuyer := @Respells.member schema buyer "buyer" [("source", .null)]
    [("remark", .null), ("articles", .array [.string "42", .null])] _ _
    rfl rfl rfl (by simp [schema]) (by simp)
    (@Respells.member buyer regular "regular" [] [] _ _ rfl rfl rfl (by simp [buyer, ofFields])
      (by simp) (.emptyText rfl rfl))
  exact .trans _ _ _ (.rel _ _ hstate)
    (.trans _ _ _ (.rel _ _ harticle) (.symm _ _ (.rel _ _ hbuyer)))

/-- The order is stored as if it had been sent in the other spelling. -/
theorem check_resent : schema.check .builtins "order" (some resent) = .ok (some stored) :=
  (check_eq_of_respells declaresOnce resent_respells).trans check_sent

end Order

end ParamSchema.Node
