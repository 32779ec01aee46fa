import Mathlib.Data.List.Forall2
import ParamSchema.Proofs.Entries
import ParamSchema.Proofs.Schema.Rules

/-!
The steps of a load that succeeds. `Loader.nodeAt_eq_ok_iff` takes the load of a node document apart
into its decoding, its type, its fields and its rules; the place of the document plays no part in it
(`Loader.Agrees.nodeAt`).
-/

namespace ParamSchema

namespace Loader

variable {loader : Loader} {path : DocumentPath} {spec : NodeSpec} {type : Option FieldType}
  {v : Value} {node : Node}

/-- Whether a node document is one of an object; a field map makes it one. -/
def isObject (spec : NodeSpec) : Bool := spec.object || spec.format.isSome

/-- The type that a node document comes to, if it is one of a leaf, an object or a skip node. -/
structure Resolves (loader : Loader) (spec : NodeSpec) (type : Option FieldType) : Prop where
  named : spec.type.map loader.types.get? = type.map some
  object : isObject spec = true → type = none
  leaf : isObject spec = false → spec.skip = false → type.isSome = true

/-- The type that a node document names. -/
def namedType (loader : Loader) (path : DocumentPath) (spec : NodeSpec) :
    Except LoadError (Option FieldType) :=
  match spec.type with
  | none => .ok none
  | some name =>
    match loader.types.get? name with
    | some type => .ok (some type)
    | none => .error ⟨path, .unknownType name⟩

/-- The type itself, if it suits the node document. -/
def suitedType (path : DocumentPath) (spec : NodeSpec) (type : Option FieldType) :
    Except LoadError (Option FieldType) :=
  if isObject spec && type.isSome then .error ⟨path, .typeAndFields⟩
  else if !isObject spec && !spec.skip && type.isNone then .error ⟨path, .missingType⟩
  else .ok type

theorem resolveType_eq (loader : Loader) (path : DocumentPath) (spec : NodeSpec) :
    loader.resolveType path spec = loader.namedType path spec >>= suitedType path spec := by
  unfold resolveType namedType
  cases spec.type with
  | none => rfl
  | some name =>
    dsimp only
    cases loader.types.get? name <;> rfl

theorem namedType_eq_ok_iff :
    loader.namedType path spec = .ok type ↔ spec.type.map loader.types.get? = type.map some := by
  unfold namedType
  cases spec.type with
  | none => cases type <;> simp
  | some name => cases hget : loader.types.get? name <;> cases type <;> simp [hget]

theorem suitedType_eq_ok_iff {named : Option FieldType} :
    suitedType path spec named = .ok type ↔ named = type ∧
      (isObject spec = true → type = none) ∧
        (isObject spec = false → spec.skip = false → type.isSome = true) := by
  unfold suitedType
  cases isObject spec <;> cases spec.skip <;> cases named <;> cases type <;> simp

theorem resolveType_eq_ok_iff :
    loader.resolveType path spec = .ok type ↔ loader.Resolves spec type := by
  simp only [resolveType_eq, bind_eq_ok_iff, namedType_eq_ok_iff, suitedType_eq_ok_iff]
  constructor
  · rintro ⟨_, hnamed, rfl, hobject, hleaf⟩
    exact ⟨hnamed, hobject, hleaf⟩
  · rintro ⟨hnamed, hobject, hleaf⟩
    exact ⟨type, hnamed, rfl, hobject, hleaf⟩

theorem exists_resolves_iff : (∃ type, loader.Resolves spec type) ↔
    (∀ name, spec.type = some name → ∃ type, loader.types.get? name = some type) ∧
      ¬(spec.type.isSome = true ∧ isObject spec = true) ∧
        (spec.type.isSome = true ∨ isObject spec = true ∨ spec.skip = true) := by
  constructor
  · rintro ⟨type, hnamed, hobject, hleaf⟩
    cases htype : spec.type with
    | none =>
      cases type with
      | none => cases hskip : spec.skip <;> cases hobj : isObject spec <;> simp_all
      | some t => simp [htype] at hnamed
    | some name =>
      obtain ⟨t, rfl, ht⟩ : ∃ t, type = some t ∧ loader.types.get? name = some t := by
        simpa [htype, eq_comm, and_comm] using hnamed
      have hleaf : isObject spec ≠ true := fun h => nomatch hobject h
      simp_all
  · rintro ⟨hregistered, hexclusive, hleaf⟩
    cases htype : spec.type with
    | none => exact ⟨none, by simp [htype], fun _ => rfl, fun hobject hskip => by simp_all⟩
    | some name =>
      obtain ⟨t, ht⟩ := hregistered name htype
      exact ⟨some t, by simp [htype, ht], by simp_all, fun _ _ => rfl⟩

theorem fieldsOfMembers_eq_ok_iff {load : DocumentPath → Value → Except LoadError Node}
    {members : Members} {fields : Fields} :
    fieldsOfMembers load path members = .ok fields ↔
      List.Forall₂ (fun member field => field.1 = member.1 ∧
        load (path ++ [member.1]) member.2 = .ok field.2) members fields := by
  induction members generalizing fields with
  | nil => simp [fieldsOfMembers]
  | cons member rest ih =>
    obtain ⟨name, v⟩ := member
    simp only [fieldsOfMembers, bind_eq_ok_iff, pure_eq_ok_iff, ih, List.forall₂_cons_left_iff]
    constructor
    · rintro ⟨node, hnode, fields, hfields, rfl⟩
      exact ⟨(name, node), fields, ⟨rfl, hnode⟩, hfields, rfl⟩
    · rintro ⟨⟨_, node⟩, fields, ⟨rfl, hnode⟩, hfields, rfl⟩
      exact ⟨node, hnode, fields, hfields, rfl⟩

/-- Loaded fields have the keys of the members as their names. -/
theorem names_of_loaded {load : DocumentPath → Value → Except LoadError Node} {members : Members}
    {fields : Fields} (h : fieldsOfMembers load path members = .ok fields) :
    fields.map (·.1) = members.map (·.1) :=
  Entries.keys_eq_of_forall₂ ((fieldsOfMembers_eq_ok_iff.mp h).imp fun _ _ hloaded => hloaded.1)

/-- Every loaded field comes from a member. -/
theorem exists_member_of_loaded {load : DocumentPath → Value → Except LoadError Node}
    {members : Members} {fields : Fields} (h : fieldsOfMembers load path members = .ok fields)
    {field : String × Node} (hfield : field ∈ fields) :
    ∃ member ∈ members, load (path ++ [member.1]) member.2 = .ok field.2 := by
  obtain ⟨member, hmember, -, hload⟩ :=
    exists_of_forall₂ (fieldsOfMembers_eq_ok_iff.mp h) hfield
  exact ⟨member, hmember, hload⟩

theorem fieldsOfMembers_stepwise (load : DocumentPath → Value → Except LoadError Node)
    (path : DocumentPath) :
    Stepwise (fun member => load (path ++ [member.1]) member.2) (fieldsOfMembers load path) where
  nil := ⟨[], rfl⟩
  cons member _ := ⟨fun node fields => (member.1, node) :: fields, rfl⟩

/-- A field map loads if each of its fields does. -/
theorem exists_fieldsOfMembers_iff {load : DocumentPath → Value → Except LoadError Node}
    {members : Members} :
    (∃ fields, fieldsOfMembers load path members = .ok fields) ↔
      ∀ member ∈ members, ∃ node, load (path ++ [member.1]) member.2 = .ok node :=
  (fieldsOfMembers_stepwise load path).exists_ok_iff

theorem nodeAt_eq_ok_iff {levels : Nat} :
    loader.nodeAt (levels + 1) path v = .ok node ↔ ∃ spec type fields rules,
      NodeSpec.decode v = .ok spec ∧ loader.Resolves spec type ∧
        fieldsOfMembers (loader.nodeAt levels) (path ++ ["format"]) (spec.format.getD []) =
          .ok fields ∧
        loader.rulesOfMembers (path ++ ["validate"]) (spec.validate.getD []) = .ok rules ∧
          node = assemble spec type fields rules := by
  rw [nodeAt]
  simp only [bind_eq_ok_iff, resolveType_eq_ok_iff]
  constructor
  · rintro ⟨spec, hspec, type, htype, fields, hfields, rules, hrules, h⟩
    cases h
    cases hdecode : NodeSpec.decode v with
    | error fault =>
      rw [hdecode] at hspec
      cases hspec
    | ok spec' =>
      rw [hdecode] at hspec
      cases hspec
      exact ⟨_, type, fields, rules, rfl, htype, hfields, hrules, rfl⟩
  · rintro ⟨spec, type, fields, rules, hspec, htype, hfields, hrules, rfl⟩
    exact ⟨spec, by rw [hspec]; rfl, type, htype, fields, hfields, rules, hrules, rfl⟩

/-- Two loaders know the same types and take the same rule entries. -/
structure Agrees (loader loader' : Loader) : Prop where
  types : loader'.types = loader.types
  entries : loader'.options.allowDisabledRules = loader.options.allowDisabledRules

theorem Agrees.refl (loader : Loader) : loader.Agrees loader := ⟨rfl, rfl⟩

theorem Agrees.symm {loader' : Loader} (h : loader.Agrees loader') : loader'.Agrees loader :=
  ⟨h.types.symm, h.entries.symm⟩

theorem Agrees.resolves {loader' : Loader} (agrees : loader.Agrees loader')
    (h : loader.Resolves spec type) : loader'.Resolves spec type :=
  ⟨agrees.types ▸ h.named, h.object, h.leaf⟩

theorem Agrees.rulesOfMembers {loader' : Loader} (agrees : loader.Agrees loader')
    {entries : Members} {rules : List Rule}
    (h : loader.rulesOfMembers path entries = .ok rules) (path' : DocumentPath) :
    loader'.rulesOfMembers path' entries = .ok rules := by
  rw [rulesOfMembers_eq_ok_iff] at h ⊢
  simpa only [TakesEntry, agrees.entries] using h

/-- What a document loads as does not depend on where it stands, nor on the levels that are left if
they are enough: only errors tell these. -/
theorem Agrees.nodeAt_of_le {loader' : Loader} (agrees : loader.Agrees loader')
    {levels levels' : Nat} (hle : levels ≤ levels') (h : loader.nodeAt levels path v = .ok node)
    (path' : DocumentPath) : loader'.nodeAt levels' path' v = .ok node := by
  induction levels generalizing levels' path path' v node with
  | zero => cases h
  | succ levels ih =>
    obtain ⟨levels', rfl⟩ : ∃ n, levels' = n + 1 := ⟨levels' - 1, by omega⟩
    obtain ⟨spec, type, fields, rules, hspec, hresolves, hfields, hrules, rfl⟩ :=
      nodeAt_eq_ok_iff.mp h
    refine nodeAt_eq_ok_iff.mpr ⟨spec, type, fields, rules, hspec, ?_, ?_, ?_, rfl⟩
    · exact agrees.resolves hresolves
    · exact fieldsOfMembers_eq_ok_iff.mpr
        ((fieldsOfMembers_eq_ok_iff.mp hfields).imp fun _ _ hfield =>
          ⟨hfield.1, ih (by omega) hfield.2 _⟩)
    · exact agrees.rulesOfMembers hrules _

theorem Agrees.nodeAt {loader' : Loader} (agrees : loader.Agrees loader') {levels : Nat}
    (h : loader.nodeAt levels path v = .ok node) (path' : DocumentPath) :
    loader'.nodeAt levels path' v = .ok node :=
  agrees.nodeAt_of_le (Nat.le_refl _) h path'

theorem Agrees.fieldsOfMembers {loader' : Loader} (agrees : loader.Agrees loader') {levels : Nat}
    {members : Members} {fields : Fields}
    (h : Loader.fieldsOfMembers (loader.nodeAt levels) path members = .ok fields)
    (path' : DocumentPath) :
    Loader.fieldsOfMembers (loader'.nodeAt levels) path' members = .ok fields :=
  fieldsOfMembers_eq_ok_iff.mpr ((fieldsOfMembers_eq_ok_iff.mp h).imp fun _ _ hfield =>
    ⟨hfield.1, agrees.nodeAt hfield.2 _⟩)

end Loader

end ParamSchema
