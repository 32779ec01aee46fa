import ParamSchema.Proofs.Schema.Location
import ParamSchema.Proofs.Schema.Record

/-!
The depth limit of a loader. A document that loads under one limit loads as the same node under
every limit that its tree keeps; under any other, the load fails at the first node document that
lies one level too deep (`Loader.loadNode_limit`). `Node.depth` measures the tree, and
`Value.chains` lists the node documents of a document in their order.
-/

namespace ParamSchema

/-! ### The depth of a tree -/

namespace Node

mutual

/-- How many levels of fields the node has below it. -/
def depth : Node → Nat
  | { fields, .. } => fieldsDepth fields
termination_by structural node => node

def fieldsDepth : List (String × Node) → Nat
  | [] => 0
  | (_, field) :: rest => max (depth field + 1) (fieldsDepth rest)
termination_by structural fields => fields

end

theorem lt_fieldsDepth_iff {fields : Fields} {depth : Nat} :
    depth < fieldsDepth fields ↔ ∃ field ∈ fields, depth ≤ field.2.depth := by
  induction fields with
  | nil => simp [fieldsDepth]
  | cons field rest ih =>
    have hmax : depth < max (field.2.depth + 1) (fieldsDepth rest) ↔
        depth ≤ field.2.depth ∨ depth < fieldsDepth rest := by omega
    rw [fieldsDepth, hmax, ih]
    simp

theorem lt_depth_iff {node : Node} {depth : Nat} :
    depth < node.depth ↔ ∃ field ∈ node.fields, depth ≤ field.2.depth := by
  have hdepth : node.depth = fieldsDepth node.fields := by
    cases node
    rfl
  rw [hdepth, lt_fieldsDepth_iff]

end Node

/-! ### The node documents of a document -/

namespace NodeSpec

/-- The field map of a node document is a part of it. -/
theorem format_mem_parts {document : Value} {spec : NodeSpec}
    (h : NodeSpec.decode document = .ok spec) :
    ∀ fields, spec.format = some fields → Value.object fields ∈ document.parts := by
  refine RecordForm.decode_induct (P := fun spec : NodeSpec => ∀ fields, spec.format = some fields →
    Value.object fields ∈ document.parts) (by simp [form]) ?_ h
  intro record field v next hv hrecord hset
  cases field with
  | format =>
    obtain ⟨format, hformat, hset⟩ := bind_eq_ok_iff.mp hset
    cases hset
    rintro fields rfl
    rwa [← Value.asOptional_asMembers hformat]
  | _ =>
    obtain ⟨_, _, hset⟩ := bind_eq_ok_iff.mp hset
    cases hset
    exact hrecord

end NodeSpec

namespace Value

theorem sizeOf_lt_of_mem_parts {v part : Value} (h : part ∈ v.parts) : sizeOf part < sizeOf v := by
  cases v with
  | array items =>
    have hitem : part ∈ items := h
    have := List.sizeOf_lt_of_mem hitem
    simp only [array.sizeOf_spec]
    omega
  | object members =>
    obtain ⟨⟨key, v⟩, hmember, rfl⟩ := List.mem_map.mp h
    have := List.sizeOf_lt_of_mem hmember
    simp only [Prod.mk.sizeOf_spec, object.sizeOf_spec] at this ⊢
    omega
  | _ => cases h

/-- The field map of a node document, as far as it can be decoded. -/
def fieldMap (document : Value) : Members :=
  match NodeSpec.decode document with
  | .ok spec => spec.format.getD []
  | .error _ => []

theorem fieldMap_of_decode {document : Value} {spec : NodeSpec}
    (h : NodeSpec.decode document = .ok spec) : document.fieldMap = spec.format.getD [] := by
  rw [fieldMap, h]

theorem sizeOf_lt_of_mem_fieldMap {document : Value} {member : String × Value}
    (h : member ∈ document.fieldMap) : sizeOf member.2 < sizeOf document := by
  cases hspec : NodeSpec.decode document with
  | error fault => simp [fieldMap, hspec] at h
  | ok spec =>
    rw [fieldMap_of_decode hspec] at h
    cases hformat : spec.format with
    | none => simp [hformat] at h
    | some fields =>
      rw [hformat, Option.getD_some] at h
      have hmap := sizeOf_lt_of_mem_parts (NodeSpec.format_mem_parts hspec fields hformat)
      have hmember : member.2 ∈ (object fields).parts := List.mem_map_of_mem h
      exact (sizeOf_lt_of_mem_parts hmember).trans hmap

/-- The names on the way to each node document, in the order of the document: the document itself
comes first, and each field comes before those below it. -/
def chains (document : Value) : List (List String) :=
  [] :: document.fieldMap.attach.flatMap fun member =>
    (chains member.1.2).map (member.1.1 :: ·)
termination_by document
decreasing_by exact sizeOf_lt_of_mem_fieldMap member.2

theorem chains_eq (document : Value) : document.chains =
    [] :: document.fieldMap.flatMap fun member => member.2.chains.map (member.1 :: ·) := by
  rw [chains, List.flatMap_subtype (g := fun member => member.2.chains.map (member.1 :: ·))
    fun _ _ => rfl, List.unattach_attach]

/-- The names on the way to the first node document at a depth, if there is one. -/
def firstAt (document : Value) (depth : Nat) : Option (List String) :=
  document.chains.find? (·.length = depth)

theorem firstAt_zero (document : Value) : document.firstAt 0 = some [] := by
  rw [firstAt, chains_eq, List.find?_cons_of_pos (by simp)]

theorem firstAt_succ (document : Value) (depth : Nat) : document.firstAt (depth + 1) =
    document.fieldMap.findSome? fun member => (member.2.firstAt depth).map (member.1 :: ·) := by
  rw [firstAt, chains_eq, List.find?_cons_of_neg (by simp), List.find?_flatMap]
  congr 1
  funext member
  rw [List.find?_map, firstAt]
  congr 2
  funext names
  simp

end Value

namespace Loader

variable {loader loader' : Loader} {path : DocumentPath} {levels levels' depth : Nat} {v : Value}
  {node : Node} {members : Members} {fields : Fields}

/-- The loader with a limit of its own. -/
def limitedTo (loader : Loader) (limit : Nat) : Loader :=
  { loader with options := { loader.options with maxDepth := limit } }

theorem agrees_limitedTo (loader : Loader) (limit limit' : Nat) :
    (loader.limitedTo limit).Agrees (loader.limitedTo limit') := ⟨rfl, rfl⟩

/-- What is loaded at a place, unless the given names lead from there to a node document that raises
an error. -/
def loadedUnless {α : Type} (path : DocumentPath) (cause : LoadCause) (loaded : α) :
    Option (List String) → Except LoadError α
  | none => .ok loaded
  | some names => .error ⟨path ++ fieldPath names, cause⟩

/-! ### Two limits -/

/-- If every field loads unless it leads to an error, the first that does is the error of the field
map. -/
theorem fieldsOfMembers_eq_loadedUnless {load : DocumentPath → Value → Except LoadError Node}
    {cause : LoadCause} (first : Value → Option (List String)) (path : DocumentPath)
    (h : List.Forall₂ (fun member field => field.1 = member.1 ∧ ∀ path,
      load path member.2 = loadedUnless path cause field.2 (first member.2)) members fields) :
    fieldsOfMembers load (path ++ ["format"]) members = loadedUnless path cause fields
      (members.findSome? fun member => (first member.2).map (member.1 :: ·)) := by
  induction h with
  | nil => rfl
  | @cons member field rest fields hfield _ ih =>
    obtain ⟨name, v⟩ := member
    obtain ⟨_, node⟩ := field
    obtain ⟨rfl, hload⟩ := hfield
    rw [fieldsOfMembers, hload, ih, List.findSome?_cons]
    cases first v with
    | some names => simp [loadedUnless, fieldPath]
    | none =>
      simp only [loadedUnless, ok_bind, Option.map_none]
      cases rest.findSome? fun member => (first member.2).map (member.1 :: ·) <;> rfl

/-- A document that loads with some levels left loads with fewer as well, unless a node document
lies below all of these. -/
theorem nodeAt_eq_loadedUnless (agrees : loader'.Agrees loader) (hle : levels ≤ levels')
    {path' : DocumentPath} (h : loader'.nodeAt levels' path' v = .ok node) (path : DocumentPath) :
    loader.nodeAt levels path v =
      loadedUnless path (.tooDeep loader.options.maxDepth) node (v.firstAt levels) := by
  induction levels generalizing levels' path path' v node with
  | zero =>
    rw [nodeAt, v.firstAt_zero, loadedUnless]
    simp [fieldPath]
  | succ levels ih =>
    obtain ⟨levels', rfl⟩ : ∃ n, levels' = n + 1 := ⟨levels' - 1, by omega⟩
    obtain ⟨spec, type, fields, rules, hspec, hresolves, hfields, hrules, rfl⟩ :=
      nodeAt_eq_ok_iff.mp h
    have htype : loader.resolveType path spec = .ok type :=
      resolveType_eq_ok_iff.mpr (agrees.resolves hresolves)
    have hloaded := (fieldsOfMembers_eq_ok_iff.mp hfields).imp fun _ _ hfield =>
      And.intro hfield.1 (ih (Nat.le_of_succ_le_succ hle) hfield.2)
    have hwhole := fieldsOfMembers_eq_loadedUnless (fun v => v.firstAt levels) path hloaded
    rw [nodeAt, hspec, v.firstAt_succ, Value.fieldMap_of_decode hspec]
    simp only [Except.mapError, ok_bind, htype, hwhole]
    cases (spec.format.getD []).findSome? fun member =>
        (member.2.firstAt levels).map (member.1 :: ·) with
    | some names => rfl
    | none =>
      simp only [loadedUnless, ok_bind, agrees.rulesOfMembers hrules _]
      rfl

/-- The tree of a document that loads is as deep as the document. -/
theorem isSome_firstAt_iff (h : loader.nodeAt levels path v = .ok node) (depth : Nat) :
    (v.firstAt depth).isSome = true ↔ depth ≤ node.depth := by
  induction depth generalizing levels path v node with
  | zero => simp [v.firstAt_zero]
  | succ depth ih =>
    cases levels with
    | zero => cases h
    | succ levels =>
      obtain ⟨spec, type, fields, rules, hspec, _, hfields, _, rfl⟩ := nodeAt_eq_ok_iff.mp h
      rw [v.firstAt_succ, Value.fieldMap_of_decode hspec, List.findSome?_isSome_iff,
        Nat.succ_le_iff, Node.lt_depth_iff]
      simp only [Option.isSome_map]
      exact exists_iff_of_forall₂ (fieldsOfMembers_eq_ok_iff.mp hfields)
        fun _ _ hfield => ih hfield.2

theorem depth_lt_of_nodeAt (h : loader.nodeAt levels path v = .ok node) : node.depth < levels := by
  have hcut := nodeAt_eq_loadedUnless (.refl loader) (Nat.le_refl _) h path
  by_contra hdeep
  obtain ⟨names, hnames⟩ :=
    Option.isSome_iff_exists.mp ((isSome_firstAt_iff h levels).mpr (by omega))
  rw [h, hnames] at hcut
  cases hcut

/-- A field map loads as the fields of the node whose document holds it and that may be one level
deeper. -/
theorem loadNode_format_iff (loader : Loader) (limit : Nat) (format : Value) (node : Node) :
    (loader.limitedTo (limit + 1)).loadNode (.object [("format", format)]) = .ok node ↔
      ∃ fields, (loader.limitedTo limit).loadFields format = .ok fields ∧
        node = .ofFields fields := by
  have hnode : (loader.limitedTo (limit + 1)).loadNode (.object [("format", format)]) =
      (loader.limitedTo (limit + 1)).nodeAt (limit + 1 + 1) [] (.object [("format", format)]) := rfl
  rw [hnode, nodeAt_eq_ok_iff]
  cases format with
  | object members =>
    have hdecode : NodeSpec.decode (.object [("format", .object members)]) =
        .ok { format := some members } := rfl
    constructor
    · rintro ⟨spec, type, fields, rules, hspec, hresolves, hfields, hrules, rfl⟩
      cases hdecode.symm.trans hspec
      cases hrules
      refine ⟨fields, (agrees_limitedTo loader _ _).fieldsOfMembers hfields [], ?_⟩
      rw [hresolves.object rfl]
      rfl
    · rintro ⟨fields, hfields, rfl⟩
      exact ⟨_, none, fields, [], hdecode, ⟨rfl, fun _ => rfl, nofun⟩,
        (agrees_limitedTo loader _ _).fieldsOfMembers hfields _, rfl, rfl⟩
  | null =>
    -- A null is no field map, and then the document is none of a leaf, an object or a skip node.
    refine iff_of_false ?_ (fun ⟨_, h, _⟩ => nomatch h)
    rintro ⟨spec, type, _, _, hspec, hresolves, -⟩
    cases hspec
    have := hresolves.leaf rfl rfl
    cases type with
    | none => cases this
    | some type => cases hresolves.named
  | _ =>
    refine iff_of_false ?_ (fun ⟨_, h, _⟩ => nomatch h)
    rintro ⟨spec, _, _, _, hspec, -⟩
    cases hspec

/-- A limit cuts a document that loads under a higher one exactly where its tree is deeper: a tree
within the limit stays the same, and any other load ends at the first node document that lies one
level below the limit. No tree is deeper than the limit that it was loaded under, so a higher limit
gives the same tree. The fields of a bare field map lie one level higher than those of a node. -/
theorem loadNode_limit (loader : Loader) :
    (∀ limit limit' v node, limit ≤ limit' → (loader.limitedTo limit').loadNode v = .ok node →
      (node.depth ≤ limit → (loader.limitedTo limit).loadNode v = .ok node) ∧
      (limit < node.depth → ∃ names, v.chains.find? (·.length = limit + 1) = some names ∧
        (loader.limitedTo limit).loadNode v = .error ⟨fieldPath names, .tooDeep limit⟩)) ∧
    (∀ limit v node, (loader.limitedTo limit).loadNode v = .ok node → node.depth ≤ limit ∧
      ∀ limit', limit ≤ limit' → (loader.limitedTo limit').loadNode v = .ok node) ∧
    ∀ limit format node,
      (loader.limitedTo (limit + 1)).loadNode (.object [("format", format)]) = .ok node ↔
        ∃ fields, (loader.limitedTo limit).loadFields format = .ok fields ∧
          node = .ofFields fields := by
  refine ⟨fun limit limit' v node hle h => ?_, fun limit v node h => ?_,
    loadNode_format_iff loader⟩
  · have hcut := nodeAt_eq_loadedUnless (agrees_limitedTo loader limit' limit)
      (Nat.succ_le_succ hle) h []
    have hfirst := isSome_firstAt_iff h (limit + 1)
    constructor
    · intro hdepth
      have hnone : v.firstAt (limit + 1) = none := by
        rw [← Option.not_isSome_iff_eq_none, hfirst]
        omega
      rwa [hnone] at hcut
    · intro hdepth
      obtain ⟨names, hnames⟩ := Option.isSome_iff_exists.mp (hfirst.mpr hdepth)
      rw [hnames] at hcut
      exact ⟨names, hnames, hcut⟩
  · have hdepth : node.depth < limit + 1 := depth_lt_of_nodeAt h
    refine ⟨Nat.lt_succ_iff.mp hdepth, fun limit' hle => ?_⟩
    exact (agrees_limitedTo loader limit limit').nodeAt_of_le (Nat.succ_le_succ hle) h []

end Loader

/-! ### Two groups -/

namespace Loader.Groups

def leaf : Value := .object [("type", .string "string")]

def group (name : String) : Value := .object [("format", .object [(name, leaf)])]

def document : Value := .object [("format", .object [("a", group "x"), ("b", group "y")])]

def node : Node :=
  .ofFields [("a", .ofFields [("x", .leaf .string)]), ("b", .ofFields [("y", .leaf .string)])]

def loader : Loader := { types := FieldType.builtins }

set_option maxRecDepth 10000 in
theorem load_document : (loader.limitedTo 2).loadNode document = .ok node := rfl

theorem fieldMap_format (fields : Members) :
    (Value.object [("format", .object fields)]).fieldMap = fields := rfl

theorem chains_document : document.chains = [[], ["a"], ["a", "x"], ["b"], ["b", "y"]] := by
  have hleaf : leaf.chains = [[]] := by
    rw [Value.chains_eq, show leaf.fieldMap = [] from rfl, List.flatMap_nil]
  have hgroup (name : String) : (group name).chains = [[], [name]] := by
    rw [group, Value.chains_eq, fieldMap_format, List.flatMap_singleton, hleaf]
    rfl
  rw [document, Value.chains_eq, fieldMap_format, List.flatMap_cons, List.flatMap_singleton, hgroup,
    hgroup]
  rfl

/-- One level is too few for both groups, and the field of the first one is reported. -/
theorem groups_cut : node.depth = 2 ∧ (loader.limitedTo 5).loadNode document = .ok node ∧
    (loader.limitedTo 1).loadNode document = .error ⟨fieldPath ["a", "x"], .tooDeep 1⟩ := by
  obtain ⟨hcut, hkeeps, -⟩ := loadNode_limit loader
  refine ⟨rfl, (hkeeps 2 document node load_document).2 5 (by decide), ?_⟩
  obtain ⟨names, hnames, herror⟩ :=
    (hcut 1 2 document node (by decide) load_document).2 (by decide)
  rw [chains_document] at hnames
  cases hnames
  exact herror

end Loader.Groups

end ParamSchema
