import ParamSchema.Proofs.Schema.Loader

/-!
Where and why a load fails. `Loader.Raises` lists what a node document raises on its own, in the
order in which it is checked, and `Loader.Leads` follows field maps down to a node document that all
that is loaded before it lets through. The error of a load is the one that is raised at the end of
such a chain, and its path spells the chain (`Loader.loadNode_eq_error_iff`).
-/

namespace ParamSchema

/-- The path to a node document from the names of the fields on the way. -/
def fieldPath (names : List String) : DocumentPath :=
  names.flatMap fun name => ["format", name]

/-- The place of an error that a node document raises; a rule entry stands in the rule map. -/
def LoadCause.place (names : List String) : LoadCause → DocumentPath
  | invalidRule .. => fieldPath names ++ ["validate"]
  | _ => fieldPath names

/-- What follows the node document in the text of the place. -/
def LoadCause.placeSuffix : LoadCause → String
  | invalidRule .. => ".validate"
  | _ => ""

namespace Loader

/-- A node document loads at a depth. -/
def LoadsAt (loader : Loader) (depth : Nat) (v : Value) : Prop :=
  ∃ node, loader.nodeAt (loader.options.maxDepth + 1 - depth) [] v = .ok node

/-- A node document passes the checks that come before its fields. -/
structure Passes (loader : Loader) (depth : Nat) (v : Value) (spec : NodeSpec) : Prop where
  depth : depth ≤ loader.options.maxDepth
  decoded : NodeSpec.decode v = .ok spec
  registered : ∀ name, spec.type = some name → ∃ type, loader.types.get? name = some type
  exclusive : ¬(spec.type.isSome = true ∧ isObject spec = true)
  typed : spec.type.isSome = true ∨ isObject spec = true ∨ spec.skip = true

/-- What a node document raises on its own at a depth, once all that is checked there earlier has
passed. -/
inductive Raises (loader : Loader) (depth : Nat) (v : Value) : LoadCause → Prop
  | tooDeep (deep : loader.options.maxDepth < depth) :
    Raises loader depth v (.tooDeep loader.options.maxDepth)
  | decode {fault : DecodeFault} (shallow : depth ≤ loader.options.maxDepth)
    (fails : NodeSpec.decode v = .error fault) : Raises loader depth v (.decode fault)
  | unknownType {spec : NodeSpec} {name : String} (shallow : depth ≤ loader.options.maxDepth)
    (decoded : NodeSpec.decode v = .ok spec) (named : spec.type = some name)
    (unknown : loader.types.get? name = none) : Raises loader depth v (.unknownType name)
  | typeAndFields {spec : NodeSpec} {name : String} {type : FieldType}
    (shallow : depth ≤ loader.options.maxDepth) (decoded : NodeSpec.decode v = .ok spec)
    (named : spec.type = some name) (registered : loader.types.get? name = some type)
    (object : isObject spec = true) : Raises loader depth v .typeAndFields
  | missingType {spec : NodeSpec} (shallow : depth ≤ loader.options.maxDepth)
    (decoded : NodeSpec.decode v = .ok spec) (untyped : spec.type = none)
    (object : isObject spec = false) (skip : spec.skip = false) :
    Raises loader depth v .missingType
  /-- The first entry of the rule map that is not taken, once all fields have loaded. -/
  | invalidRule {spec : NodeSpec} {before after : Members} {key : String} {setting : Value}
    (passes : loader.Passes depth v spec)
    (fields : ∀ member ∈ spec.format.getD [], loader.LoadsAt (depth + 1) member.2)
    (rules : spec.validate = some (before ++ (key, setting) :: after))
    (taken : ∀ entry ∈ before, loader.TakesEntry entry.2) (refused : ¬loader.TakesEntry setting) :
    Raises loader depth v (.invalidRule key setting.kind)

/-- From a node document at a depth, the named fields lead to another one; each node document on the
way passes its checks, and all fields before the one that is taken load. -/
inductive Leads (loader : Loader) : Nat → Value → List String → Value → Prop
  | here (depth : Nat) (v : Value) : Leads loader depth v [] v
  | field {depth : Nat} {v field goal : Value} {spec : NodeSpec} {before after : Members}
    {name : String} {names : List String} (passes : loader.Passes depth v spec)
    (format : spec.format = some (before ++ (name, field) :: after))
    (earlier : ∀ member ∈ before, loader.LoadsAt (depth + 1) member.2)
    (more : Leads loader (depth + 1) field names goal) :
    Leads loader depth v (name :: names) goal

variable {loader : Loader} {path : DocumentPath} {depth levels : Nat} {members : Members}
  {spec : NodeSpec} {type : Option FieldType} {v : Value} {node : Node} {fields : Fields}
  {names : List String} {cause : LoadCause} {e : LoadError}

/-! ### Paths -/

theorem intercalate_cons (head : String) (rest : List String) :
    ".".intercalate (head :: rest) = head ++ String.join (rest.map fun key => "." ++ key) := by
  induction rest generalizing head with
  | nil => simp
  | cons key rest ih =>
    rw [String.intercalate_cons_cons, ih, List.map_cons, String.join_cons, String.append_assoc,
      String.append_assoc]

theorem join_fieldPath (names : List String) :
    String.join ((fieldPath names).map fun key => "." ++ key) =
      String.join (names.map fun name => ".format." ++ name) := by
  induction names with
  | nil => rfl
  | cons name names ih =>
    have hfirst : ".format." ++ name = "." ++ "format" ++ ("." ++ name) := by
      rw [← String.append_assoc]
      rfl
    have hcons : String.join ((fieldPath (name :: names)).map fun key => "." ++ key) =
        "." ++ "format" ++ ("." ++ name) ++
          String.join ((fieldPath names).map fun key => "." ++ key) := by
      simp [fieldPath, String.append_assoc]
    rw [hcons, ih, List.map_cons, String.join_cons, hfirst]

theorem text_place (names : List String) (cause : LoadCause) :
    (cause.place names).text =
      "$" ++ String.join (names.map fun name => ".format." ++ name) ++ cause.placeSuffix := by
  rw [DocumentPath.text, intercalate_cons, ← join_fieldPath, String.append_assoc]
  cases cause <;> simp [LoadCause.place, LoadCause.placeSuffix]

/-! ### The steps of one node document -/

theorem passes_iff : loader.Passes depth v spec ↔ depth ≤ loader.options.maxDepth ∧
    NodeSpec.decode v = .ok spec ∧ ∃ type, loader.Resolves spec type := by
  rw [exists_resolves_iff]
  constructor
  · rintro ⟨hdepth, hdecoded, hregistered, hexclusive, htyped⟩
    exact ⟨hdepth, hdecoded, hregistered, hexclusive, htyped⟩
  · rintro ⟨hdepth, hdecoded, hregistered, hexclusive, htyped⟩
    exact ⟨hdepth, hdecoded, hregistered, hexclusive, htyped⟩

theorem resolveType_eq_error_iff : loader.resolveType path spec = .error e ↔
    (∃ name, spec.type = some name ∧ loader.types.get? name = none ∧
      e = ⟨path, .unknownType name⟩) ∨
    (∃ name type, spec.type = some name ∧ loader.types.get? name = some type ∧
      isObject spec = true ∧ e = ⟨path, .typeAndFields⟩) ∨
    (spec.type = none ∧ isObject spec = false ∧ spec.skip = false ∧
      e = ⟨path, .missingType⟩) := by
  rw [resolveType_eq, namedType]
  cases htype : spec.type with
  | none =>
    rw [ok_bind, suitedType]
    cases isObject spec <;> cases spec.skip <;> simp [eq_comm (a := e)]
  | some name =>
    cases hget : loader.types.get? name with
    | none => simp [hget, eq_comm (a := e)]
    | some type =>
      simp only [hget, ok_bind, suitedType]
      cases isObject spec <;> simp [hget, eq_comm (a := e)]

/-- A field map fails at its first field that does not load. -/
theorem fieldsOfMembers_eq_error_iff {load : DocumentPath → Value → Except LoadError Node} :
    fieldsOfMembers load path members = .error e ↔ ∃ before name field after,
      members = before ++ (name, field) :: after ∧
        (∀ member ∈ before, ∃ node, load (path ++ [member.1]) member.2 = .ok node) ∧
          load (path ++ [name]) field = .error e := by
  rw [(fieldsOfMembers_stepwise load path).eq_error_iff]
  simp only [Prod.exists]

theorem nodeAt_eq_error_iff : loader.nodeAt (levels + 1) path v = .error e ↔
    (∃ fault, NodeSpec.decode v = .error fault ∧ e = ⟨path, .decode fault⟩) ∨
    ∃ spec, NodeSpec.decode v = .ok spec ∧
      (loader.resolveType path spec = .error e ∨ ∃ type, loader.Resolves spec type ∧
        (fieldsOfMembers (loader.nodeAt levels) (path ++ ["format"]) (spec.format.getD []) =
            .error e ∨
          ∃ fields, fieldsOfMembers (loader.nodeAt levels) (path ++ ["format"])
            (spec.format.getD []) = .ok fields ∧
              loader.rulesOfMembers (path ++ ["validate"]) (spec.validate.getD []) = .error e)) := by
  rw [nodeAt]
  simp only [bind_eq_error_iff, resolveType_eq_ok_iff]
  cases NodeSpec.decode v with
  | error fault => simp [Except.mapError, eq_comm (a := e)]
  | ok spec => simp [Except.mapError, pure, Except.pure]

theorem loadsAt_iff (path : DocumentPath) (hlevels : loader.options.maxDepth + 1 - depth = levels) :
    loader.LoadsAt depth v ↔ ∃ node, loader.nodeAt levels path v = .ok node := by
  subst hlevels
  constructor <;> exact fun ⟨node, h⟩ => ⟨node, (Agrees.refl loader).nodeAt h _⟩

theorem eq_some_of_getD {before after : Members} {content : Option Members}
    {member : String × Value} (h : content.getD [] = before ++ member :: after) :
    content = some (before ++ member :: after) := by
  cases content with
  | none => simp at h
  | some entries => exact congrArg some h

/-- The error of a node document is its own, or that of the first field that does not load. -/
theorem nodeAt_succ_eq_error_iff (hdepth : depth + levels = loader.options.maxDepth) :
    loader.nodeAt (levels + 1) path v = .error e ↔
      (loader.Raises depth v e.cause ∧ e.path = path ++ e.cause.place []) ∨
      ∃ spec before name field after, loader.Passes depth v spec ∧
        spec.format = some (before ++ (name, field) :: after) ∧
          (∀ member ∈ before, loader.LoadsAt (depth + 1) member.2) ∧
            loader.nodeAt levels (path ++ ["format", name]) field = .error e := by
  have hshallow : depth ≤ loader.options.maxDepth := by omega
  have hlevels : loader.options.maxDepth + 1 - (depth + 1) = levels := by omega
  rw [nodeAt_eq_error_iff]
  constructor
  · rintro (⟨fault, hfails, rfl⟩ | ⟨spec, hspec, h⟩)
    · exact .inl ⟨.decode hshallow hfails, (List.append_nil path).symm⟩
    rcases h with h | ⟨type, hresolves, h⟩
    · left
      rcases resolveType_eq_error_iff.mp h with ⟨name, hname, hunknown, rfl⟩ |
        ⟨name, type, hname, htype, hobject, rfl⟩ | ⟨huntyped, hobject, hskip, rfl⟩
      · exact ⟨.unknownType hshallow hspec hname hunknown, (List.append_nil path).symm⟩
      · exact ⟨.typeAndFields hshallow hspec hname htype hobject, (List.append_nil path).symm⟩
      · exact ⟨.missingType hshallow hspec huntyped hobject hskip, (List.append_nil path).symm⟩
    have hpasses := passes_iff.mpr ⟨hshallow, hspec, type, hresolves⟩
    rcases h with h | ⟨fields, hfields, h⟩
    · obtain ⟨before, name, field, after, hformat, hbefore, hfield⟩ :=
        fieldsOfMembers_eq_error_iff.mp h
      rw [List.append_assoc] at hfield
      exact .inr ⟨spec, before, name, field, after, hpasses, eq_some_of_getD hformat,
        fun member hmember => (loadsAt_iff _ hlevels).mpr (hbefore member hmember), hfield⟩
    · obtain ⟨before, key, setting, after, hrules, htaken, hrefused, rfl⟩ :=
        rulesOfMembers_eq_error_iff.mp h
      have hloads := exists_fieldsOfMembers_iff.mp ⟨fields, hfields⟩
      exact .inl ⟨.invalidRule hpasses
        (fun member hmember => (loadsAt_iff _ hlevels).mpr (hloads member hmember))
        (eq_some_of_getD hrules) htaken hrefused, rfl⟩
  · rintro (⟨hraises, hpath⟩ | ⟨spec, before, name, field, after, hpasses, hformat, hbefore, hfield⟩)
    · obtain ⟨place, cause⟩ := e
      obtain rfl : place = path ++ cause.place [] := hpath
      cases hraises with
      | tooDeep deep => omega
      | @decode fault _ fails =>
        exact .inl ⟨fault, fails, by simp [LoadCause.place, fieldPath]⟩
      | @unknownType spec name _ decoded named unknown =>
        refine .inr ⟨spec, decoded, .inl (resolveType_eq_error_iff.mpr (.inl ?_))⟩
        exact ⟨name, named, unknown, by simp [LoadCause.place, fieldPath]⟩
      | @typeAndFields spec name type _ decoded named registered object =>
        refine .inr ⟨spec, decoded, .inl (resolveType_eq_error_iff.mpr (.inr (.inl ?_)))⟩
        exact ⟨name, type, named, registered, object,
          by simp [LoadCause.place, fieldPath]⟩
      | @missingType spec _ decoded untyped object skip =>
        refine .inr ⟨spec, decoded, .inl (resolveType_eq_error_iff.mpr (.inr (.inr ?_)))⟩
        exact ⟨untyped, object, skip, by simp [LoadCause.place, fieldPath]⟩
      | @invalidRule spec before after key setting passes fields rules taken refused =>
        obtain ⟨_, decoded, type, hresolves⟩ := passes_iff.mp passes
        obtain ⟨loaded, hloaded⟩ := exists_fieldsOfMembers_iff.mpr
          fun member hmember => (loadsAt_iff (path ++ ["format"] ++ [member.1]) hlevels).mp
            (fields member hmember)
        refine .inr ⟨spec, decoded, .inr ⟨type, hresolves, .inr ⟨loaded, hloaded, ?_⟩⟩⟩
        exact rulesOfMembers_eq_error_iff.mpr ⟨before, key, setting, after, by rw [rules]; rfl,
          taken, refused, by simp [LoadCause.place, fieldPath]⟩
    · obtain ⟨_, decoded, type, hresolves⟩ := passes_iff.mp hpasses
      refine .inr ⟨spec, decoded, .inr ⟨type, hresolves, .inl ?_⟩⟩
      refine fieldsOfMembers_eq_error_iff.mpr
        ⟨before, name, field, after, by rw [hformat]; rfl, fun member hmember => ?_, ?_⟩
      · exact (loadsAt_iff _ hlevels).mp (hbefore member hmember)
      · rwa [List.append_assoc]

theorem place_cons (name : String) (names : List String) (cause : LoadCause) :
    cause.place (name :: names) = ["format", name] ++ cause.place names := by
  cases cause <;> simp [LoadCause.place, fieldPath]

theorem nodeAt_eq_error_iff_leads (hdepth : depth + levels = loader.options.maxDepth + 1) :
    loader.nodeAt levels path v = .error e ↔
      ∃ names goal, loader.Leads depth v names goal ∧
        loader.Raises (depth + names.length) goal e.cause ∧
          e.path = path ++ e.cause.place names := by
  induction levels generalizing depth path v e with
  | zero =>
    have hdeep : loader.options.maxDepth < depth := by omega
    constructor
    · rintro ⟨⟩
      exact ⟨[], v, .here depth v, .tooDeep hdeep, (List.append_nil path).symm⟩
    · rintro ⟨names, goal, hleads, hraises, hpath⟩
      obtain ⟨place, cause⟩ := e
      cases hleads with
      | field passes => exact absurd passes.depth (by omega)
      | here =>
        obtain rfl : place = path ++ cause.place [] := hpath
        cases hraises with
        | tooDeep => simp [nodeAt, LoadCause.place, fieldPath]
        | decode shallow | unknownType shallow | typeAndFields shallow | missingType shallow =>
          exact absurd hdeep (Nat.not_lt.mpr shallow)
        | invalidRule passes => exact absurd hdeep (Nat.not_lt.mpr passes.depth)
  | succ levels ih =>
    have hhere : depth + levels = loader.options.maxDepth := by omega
    have hbelow : depth + 1 + levels = loader.options.maxDepth + 1 := by omega
    rw [nodeAt_succ_eq_error_iff hhere]
    constructor
    · rintro (⟨hraises, hpath⟩ | ⟨spec, before, name, field, after, hpasses, hformat, hbefore, h⟩)
      · exact ⟨[], v, .here depth v, hraises, hpath⟩
      · obtain ⟨names, goal, hleads, hraises, hpath⟩ := (ih hbelow).mp h
        refine ⟨name :: names, goal, .field hpasses hformat hbefore hleads, ?_, ?_⟩
        · rwa [List.length_cons, Nat.add_comm names.length, ← Nat.add_assoc]
        · rw [hpath, place_cons, List.append_assoc]
    · rintro ⟨names, goal, hleads, hraises, hpath⟩
      cases hleads with
      | here => exact .inl ⟨hraises, hpath⟩
      | @field _ _ field _ spec before after name names passes format earlier more =>
        refine .inr ⟨spec, before, name, field, after, passes, format, earlier, ?_⟩
        refine (ih hbelow).mpr ⟨names, goal, more, ?_, ?_⟩
        · rwa [List.length_cons, Nat.add_comm names.length, ← Nat.add_assoc] at hraises
        · rw [hpath, place_cons, List.append_assoc]

/-- A load fails with the error that is raised at the end of a chain of fields, each of which the
load comes to; the path spells the chain. -/
theorem loadNode_eq_error_iff (loader : Loader) (root : Value) (e : LoadError) :
    loader.loadNode root = .error e ↔ ∃ names goal, loader.Leads 0 root names goal ∧
      loader.Raises names.length goal e.cause ∧ e.path = e.cause.place names ∧
        e.path.text = "$" ++ String.join (names.map fun name => ".format." ++ name) ++
          e.cause.placeSuffix := by
  rw [loadNode, nodeAt_eq_error_iff_leads (Nat.zero_add _)]
  simp only [List.nil_append, Nat.zero_add]
  refine exists_congr fun names => exists_congr fun goal => and_congr_right fun _ =>
    and_congr_right fun _ => (and_iff_left_of_imp fun hpath => ?_).symm
  rw [hpath, text_place]

end Loader

end ParamSchema
