import ParamSchema.Proofs.Check.Rejection

/-!
What an object makes of its members, also where it declares a name several times. Each declaration
checks the member on its own; a name stands where a declaration keeps it first and holds what the
last one keeps (`Node.Gathers`). The other keys follow all together or not at all
(`Node.shape_object_outcome`).
-/

namespace ParamSchema.Node

/-- What a declaration keeps of the members: the answer of its check, unless there is none or it is
a null that the field does not accept. -/
def kept? (context : Context) (given : Members) (field : String × Node) : Option Value :=
  match field.2.check context field.1 (given.lookup field.1) with
  | .ok result => result.filter fun v => !v.isNull || field.2.acceptNull
  | .error _ => none

/-- The names of the declarations that keep something, in order. -/
def keptNames (context : Context) (given : Members) (fields : Fields) : List String :=
  (fields.filter fun field => (kept? context given field).isSome).map (·.1)

/-- The values that the declarations of a name keep, in order. -/
def keptUnder (context : Context) (given : Members) (fields : Fields) (name : String) :
    List Value :=
  (fields.filter (·.1 = name)).filterMap (kept? context given)

/-- The members of a result that come from declarations: a name stands where it is kept first, and
holds what is kept last. -/
structure Gathers (context : Context) (given : Members) (fields : Fields) (members : Members) :
    Prop where
  names : members.map (·.1) = (keptNames context given fields).eraseDups
  values : ∀ member ∈ members,
    (keptUnder context given fields member.1).getLast? = some member.2

variable {context : Context} {node : Node} {name : String} {given kept : Members} {fields : Fields}
  {w : Value} {e : Fault}

/-! ### Declarations -/

theorem FieldsKept.eq_filterMap (h : FieldsKept context given fields kept) :
    kept = fields.filterMap fun field => (kept? context given field).map (field.1, ·) := by
  induction h with
  | nil => rfl
  | @omitted key field rest kept checked _ _ ih =>
    have hnone : kept? context given (key, field) = none := by simp [kept?, checked]
    rw [List.filterMap_cons, hnone]
    exact ih
  | @dropped key field rest kept checked refused _ ih =>
    have hnone : kept? context given (key, field) = none := by
      simp [kept?, checked, refused, Value.isNull]
    rw [List.filterMap_cons, hnone]
    exact ih
  | @kept key field v rest kept checked accepted _ ih =>
    have hsome : kept? context given (key, field) = some v := by
      cases v <;> simp_all [kept?, Value.isNull]
    rw [List.filterMap_cons, hsome]
    exact congrArg ((key, v) :: ·) ih

theorem FieldsKept.keys_eq (h : FieldsKept context given fields kept) :
    kept.map (·.1) = keptNames context given fields := by
  rw [h.eq_filterMap, List.map_filterMap, keptNames, ← List.filterMap_eq_filter,
    List.map_filterMap]
  refine List.filterMap_congr fun field _ => ?_
  cases hkept : kept? context given field <;> simp [hkept, Option.guard]

theorem FieldsKept.values_eq (h : FieldsKept context given fields kept) (name : String) :
    (kept.filter (·.1 = name)).map (·.2) = keptUnder context given fields name := by
  rw [h.eq_filterMap, List.filter_filterMap, List.map_filterMap, keptUnder, List.filterMap_filter]
  refine List.filterMap_congr fun field _ => ?_
  cases hkept : kept? context given field <;> by_cases hname : field.1 = name <;>
    simp [hname]

/-- Kept members that are set one after another are gathered. -/
theorem FieldsKept.gathers (h : FieldsKept context given fields kept) :
    Gathers context given fields (Members.putAll [] kept) where
  names := by rw [Members.keys_putAll, h.keys_eq]
  values member hmember := by
    have hnodup : ((Members.putAll [] kept).map (·.1)).Nodup := Members.nodup_putAll kept .nil
    rw [← h.values_eq, ← Members.lookup_putAll]
    exact (Entries.lookup_eq_some_iff_mem hnodup).mpr hmember

theorem exists_fieldsKept_iff : (∃ kept, FieldsKept context given fields kept) ↔
    ∀ field ∈ fields, Passes context given field := by
  have hchecks : (∃ result, checkFields context given fields [] = .ok result) ↔ _ :=
    checkFields_eq_ok_iff_passes
  rw [← hchecks]
  simp [checkFields_eq_ok_iff]

/-! ### The whole object -/

theorem undeclared_eq_nil_iff :
    node.undeclared given = [] ↔ ∀ member ∈ given, node.declares member.1 = true := by
  simp [undeclared, List.filter_eq_nil_iff]

/-- What declarations keep and the other keys never meet, so the result is one after the other. -/
theorem putAll_kept_undeclared (distinct : (given.map (·.1)).Nodup)
    (hkept : FieldsKept context given node.fields kept) :
    Members.putAll [] (kept ++ node.undeclared given) =
      Members.putAll [] kept ++ node.undeclared given := by
  have hnew : ∀ member ∈ node.undeclared given,
      member.1 ∉ (Members.putAll [] kept).map (·.1) := by
    intro member hmember hkey
    rw [Members.keys_putAll, List.mem_eraseDups] at hkey
    have hdeclared := declares_iff.mpr (hkept.keys_sublist.subset hkey)
    rw [(mem_undeclared.mp hmember).2] at hdeclared
    cases hdeclared
  have hnodup : (([] ++ node.undeclared given : Members).map (·.1)).Nodup :=
    distinct.sublist (List.filter_sublist.map _)
  have hothers : Members.putAll [] (node.undeclared given) = node.undeclared given :=
    Members.putAll_of_nodup hnodup
  rw [Members.putAll_append, Members.putAll_disjoint hnew, hothers]

theorem exists_shape_object_iff (object : node.object = true) :
    (∃ w, node.shape context name (.object given) = .ok w) ↔
      (∀ field ∈ node.fields, Passes context given field) ∧
        (node.acceptOtherKeys = false → ∀ member ∈ given, node.declares member.1 = true) := by
  rw [← undeclared_eq_nil_iff, ← exists_fieldsKept_iff]
  simp only [shape_eq_ok_iff]
  constructor
  · rintro ⟨w, hshapes⟩
    cases hshapes with
    | object _ hkept others => exact ⟨⟨_, hkept⟩, others⟩
    | leaf leaf => exact absurd object (by simp [leaf])
  · rintro ⟨⟨kept, hkept⟩, others⟩
    exact ⟨_, .object object hkept others⟩

/-- An object passes if each of its declarations does and, unless it accepts other keys, declares
every key that it is given. Its result has no key twice: first what the declarations keep, then all
other keys as they are given, if they are accepted. A check of a node that asks for an object
applies its rules to this result. -/
theorem shape_object_outcome (context : Context) (node : Node) (name : String) (given : Members)
    (object : node.object = true) (distinct : (given.map (·.1)).Nodup) :
    ((∃ w, node.shape context name (.object given) = .ok w) ↔
      (∀ field ∈ node.fields, Passes context given field) ∧
        (node.acceptOtherKeys = false → ∀ member ∈ given, node.declares member.1 = true)) ∧
    (∀ w, node.shape context name (.object given) = .ok w →
      ∃ declared result : Members, w = .object result ∧ (result.map (·.1)).Nodup ∧
        Gathers context given node.fields declared ∧
          result = declared ++ if node.acceptOtherKeys then node.undeclared given else []) ∧
    (∀ e, node.shape context name (.object given) = .error e ↔
      node.ObjectFault context given e) ∧
    (node.skip = false → node.checkItem context name (some (.object given)) = do
      let checked ← node.shape context name (.object given)
      Rule.applyAll context checked node.rules
      return some checked) := by
  refine ⟨exists_shape_object_iff object, ?result, fun e => shape_object_eq_error_iff object, ?item⟩
  case result =>
    intro w h
    cases shape_eq_ok_iff.mp h with
    | leaf leaf => exact absurd object (by simp [leaf])
    | @object _ kept _ hkept others =>
      refine ⟨_, _, rfl, Members.nodup_putAll _ .nil, hkept.gathers, ?_⟩
      rw [putAll_kept_undeclared distinct hkept]
      cases accept : node.acceptOtherKeys with
      | true => rw [if_pos rfl]
      | false => rw [others accept, if_neg Bool.false_ne_true]
  case item =>
    intro skip
    have hpresent : node.readsAsNull (.object given) = false := rfl
    rw [checkItem_eq, if_neg (by simp [skip]), intake_of_present hpresent]

/-! ### A form that declares a name twice -/

namespace Form

/-- The code is read as a number first and as a text last; the note lets every value through. -/
def schema : Node where
  object := true
  fields := [("code", .leaf .integer), ("note", { skip := true }), ("owner", .leaf .string),
    ("code", .leaf .string)]
  acceptOtherKeys := true

def sent : Members :=
  [("page", .null), ("owner", .string "Ann"), ("note", .null), ("code", .string "7")]

def stored : Members := [("code", .string "7"), ("owner", .string "Ann"), ("page", .null)]

theorem shape_sent : schema.shape .builtins "form" (.object sent) = .ok (.object stored) := rfl

/-- The code stands where the number was kept and holds the text, and the page comes last. -/
theorem stored_gathered : (sent.map (·.1)).Nodup ∧
    ∃ declared : Members, Gathers .builtins sent schema.fields declared ∧
      stored = declared ++ [("page", .null)] := by
  have hdistinct : (sent.map (·.1)).Nodup := by decide
  obtain ⟨-, hresult, -⟩ := shape_object_outcome .builtins schema "form" sent rfl hdistinct
  obtain ⟨declared, result, heq, -, hgathers, hsplit⟩ := hresult _ shape_sent
  cases heq
  exact ⟨hdistinct, declared, hgathers, hsplit⟩

end Form

end ParamSchema.Node
