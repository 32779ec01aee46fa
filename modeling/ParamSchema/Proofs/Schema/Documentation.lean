import ParamSchema.Proofs.Doc
import ParamSchema.Proofs.Schema.Grammar

/-!
Documentation of loaded documents. The documentation of a node tells what its schema document says,
at every depth (`Loader.Shows`), and its rows are those of the fields that the document declares,
one after another (`Loader.loaded_documentation`). The path of a row has the names on the way with
points between, but for one slip: without a base, the point after an empty first name is lost.
-/

namespace ParamSchema

/-! ### Fields that a document declares -/

namespace Value

/-- The name of a field on paths, with brackets if its document asks for an array. -/
def marked (name : String) : Value → String
  | .object members =>
    match members.lookup "multiple" with
    | some (.bool true) => name ++ "[]"
    | _ => name
  | _ => name

/-- A field that a document declares at some depth: the names on the way to it, its own the last,
and its document. -/
structure Declared where
  names : List String
  document : Value

def Declared.below (name : String) (declared : Declared) : Declared :=
  { declared with names := name :: declared.names }

theorem sizeOf_lt_of_mem_mapUnder {members : Members} {key : String} {member : String × Value}
    (h : member ∈ members.mapUnder key) : sizeOf member.2 < sizeOf (Value.object members) := by
  obtain ⟨entries, hlookup, hmember⟩ := Members.mem_mapUnder.mp h
  obtain ⟨before, after, rfl, -⟩ := List.lookup_eq_some_iff.mp hlookup
  have hmap : sizeOf (key, Value.object entries) <
      sizeOf (before ++ (key, .object entries) :: after) :=
    List.sizeOf_lt_of_mem List.mem_append_cons_self
  have hfield := List.sizeOf_lt_of_mem hmember
  obtain ⟨name, document⟩ := member
  simp only [Prod.mk.sizeOf_spec, Value.object.sizeOf_spec] at hmap hfield ⊢
  omega

/-- The fields that a document declares, each before those below it. -/
def declared : Value → List Declared
  | .object members =>
    (Members.mapUnder members "format").attach.flatMap fun member =>
      let name := marked member.1.1 member.1.2
      ⟨[name], member.1.2⟩ :: (declared member.1.2).map (.below name)
  | _ => []
termination_by document => document
decreasing_by exact sizeOf_lt_of_mem_mapUnder member.2

/-- A field and the fields that its document declares. -/
def declaredAt (member : String × Value) : List Declared :=
  ⟨[marked member.1 member.2], member.2⟩ ::
    member.2.declared.map (.below (marked member.1 member.2))

theorem keyed_object_iff {members : Members} :
    (Value.object members).Keyed ↔ ∀ member ∈ members.mapUnder "format", member.2.Keyed := by
  constructor
  · intro keyed member hmember depth doc hdoc
    obtain ⟨entries, hformat, hmember⟩ := Members.mem_mapUnder.mp hmember
    exact keyed (depth + 1) doc (.field hformat hmember hdoc)
  · intro h depth doc hdoc
    cases hdoc with
    | here => exact ⟨_, rfl⟩
    | field hformat hmember hbelow =>
      exact h _ (Members.mem_mapUnder.mpr ⟨_, hformat, hmember⟩) _ _ hbelow

theorem declared_object (members : Members) :
    (Value.object members).declared = (members.mapUnder "format").flatMap declaredAt := by
  rw [declared, List.flatMap_subtype (g := declaredAt) fun _ _ => rfl, List.unattach_attach]

end Value

/-! ### Paths of rows -/

namespace Doc

def extend (path name : String) : String :=
  if path.isEmpty then name else path ++ "." ++ name

/-- The names after a base, if there is one, with points between. -/
def dotted (base : String) (names : List String) : String :=
  ".".intercalate (if base.isEmpty then names else base :: names)

/-- The first of several names is empty and has no base before it, so the path that it makes is
taken for none, and the point after it is lost. -/
def LosesPoint (base : String) (names : List String) : Prop :=
  base = "" ∧ ∃ next rest, names = "" :: next :: rest

variable {base : String} {names : List String}

theorem dotted_empty (names : List String) : dotted "" names = ".".intercalate names := by
  simp [dotted]

theorem foldl_extend (nonempty : base ≠ "") (names : List String) :
    names.foldl extend base = dotted base names := by
  rw [dotted, if_neg (by simpa using nonempty)]
  induction names generalizing base with
  | nil => rw [List.foldl_nil, String.intercalate_singleton]
  | cons name rest ih =>
    have hextend : extend base name = base ++ "." ++ name := if_neg (by simpa using nonempty)
    rw [List.foldl_cons, hextend, ih (by simp [nonempty]), String.intercalate_cons_append,
      String.intercalate_cons_cons]

/-- Without a base, empty names at the front are left out. -/
theorem foldl_extend_empty (names : List String) :
    names.foldl extend "" = dotted "" (names.dropWhile (·.isEmpty)) := by
  induction names with
  | nil => rfl
  | cons name rest ih =>
    have hextend : extend "" name = name := if_pos rfl
    rw [List.foldl_cons, hextend]
    by_cases hname : name = ""
    · rw [hname, ih]
      rfl
    · rw [foldl_extend hname]
      simp [dotted, hname]

theorem length_dotted_dropWhile (names : List String) :
    (dotted "" (names.dropWhile (·.isEmpty))).length ≤ (dotted "" names).length := by
  simp only [dotted_empty]
  induction names with
  | nil => exact Nat.le_refl _
  | cons name rest ih =>
    by_cases hname : name = ""
    · rw [hname, List.dropWhile_cons_of_pos rfl]
      refine Nat.le_trans ih ?_
      cases rest with
      | nil => exact Nat.zero_le _
      | cons next rest =>
        rw [String.intercalate_cons_cons, String.length_append]
        exact Nat.le_add_left _ _
    · rw [List.dropWhile_cons_of_neg (by simpa using hname)]

theorem length_dotted_of_lost (next : String) (rest : List String) :
    (dotted "" (("" :: next :: rest).dropWhile (·.isEmpty))).length <
      (dotted "" ("" :: next :: rest)).length := by
  have hpoint : ("" ++ ".").length = 1 := rfl
  have hshorter := length_dotted_dropWhile (next :: rest)
  rw [List.dropWhile_cons_of_pos rfl, dotted_empty ("" :: _), String.intercalate_cons_cons,
    ← dotted_empty, String.length_append]
  omega

/-- The path that is made name by name is the one with points between, unless a point is lost. -/
theorem foldl_extend_eq_iff :
    names.foldl extend base = dotted base names ↔ ¬LosesPoint base names := by
  by_cases hbase : base = ""
  · subst hbase
    rw [foldl_extend_empty]
    match names with
    | [] => simp [LosesPoint]
    | [name] => by_cases hname : name = "" <;> simp [LosesPoint, dotted, hname]
    | name :: next :: rest =>
      by_cases hname : name = ""
      · -- The path has lost at least a point, so it is shorter than it should be.
        subst hname
        refine iff_of_false (fun heq => ?_) fun hnot => hnot ⟨rfl, _, _, rfl⟩
        exact absurd (congrArg String.length heq) (Nat.ne_of_lt (length_dotted_of_lost next rest))
      · simp [LosesPoint, hname]
  · rw [foldl_extend hbase]
    simp [LosesPoint, hbase]

end Doc

/-! ### What documentation shows -/

namespace Loader

inductive ShowsType (loader : Loader) (members : Members) : String → Prop
  | any (skip : members.lookup "skip" = some (.bool true)) : ShowsType loader members "any"
  | object (skip : members.lookup "skip" ≠ some (.bool true)) (object : members.DescribesObject) :
    ShowsType loader members "object"
  | leaf {name : String} {type : FieldType} (skip : members.lookup "skip" ≠ some (.bool true))
    (leaf : ¬members.DescribesObject) (named : members.lookup "type" = some (.string name))
    (found : loader.types.get? name = some type) : ShowsType loader members type.name

/-- The documentation tells what a node document says, its fields apart. -/
structure Shows (loader : Loader) (members : Members) (doc : Doc) : Prop where
  type : loader.ShowsType members doc.type
  multiple : doc.multiple = true ↔ members.lookup "multiple" = some (.bool true)
  optional : doc.optional = true ↔ members.lookup "optional" = some (.bool true)
  acceptNull : doc.acceptNull = true ↔ members.lookup "acceptNull" = some (.bool true)
  acceptOtherKeys : doc.acceptOtherKeys = true ↔
    members.DescribesObject ∧ members.lookup "acceptOtherKeys" = some (.bool true)
  default : ∀ v, doc.defaultValue = some v ↔ v ≠ .null ∧
    (members.lookup "default" = some v ∨ members.lookup "defaultValue" = some v)
  rules : doc.rules = (enabled (members.mapUnder "validate")).map (·.1)

/-- The documentation tells what a document says, field by field in the order of its maps. -/
inductive Documents (loader : Loader) : Value → Doc → Prop
  | object {members : Members} {doc : Doc} (shows : loader.Shows members doc)
    (names : doc.fields.map (·.1) = (members.mapUnder "format").map (·.1))
    (fields : List.Forall₂ (fun member field => Documents loader member.2 field.2)
      (members.mapUnder "format") doc.fields) : Documents loader (.object members) doc

variable {loader : Loader} {members : Members} {node : Node} {doc : Doc} {document : Value}
  {levels : Nat} {path : DocumentPath}

theorem Mirrors.showsType (mirrors : loader.Mirrors members node)
    (leaf : node.object = false → node.skip = false → node.type.isSome = true) :
    loader.ShowsType members node.typeName := by
  rw [Node.typeName]
  split
  case isTrue skip => exact .any (mirrors.skip.mp skip)
  case isFalse skip =>
    have hskip := mt mirrors.skip.mpr skip
    split
    case isTrue object => exact .object hskip (mirrors.object.mp object)
    case isFalse object =>
      have hsome := leaf (Bool.eq_false_iff.mpr object) (Bool.eq_false_iff.mpr skip)
      obtain ⟨type, htype⟩ := Option.isSome_iff_exists.mp hsome
      obtain ⟨name, hnamed, hfound⟩ := (mirrors.type type).mp htype
      rw [htype]
      exact .leaf hskip (mt mirrors.object.mpr object) hnamed hfound

theorem Mirrors.shows (mirrors : loader.Mirrors members node)
    (leaf : node.object = false → node.skip = false → node.type.isSome = true) :
    loader.Shows members node.doc := by
  rw [Node.doc_eq]
  refine ⟨mirrors.showsType leaf, mirrors.multiple, mirrors.optional, mirrors.acceptNull,
    ?acceptOtherKeys, ?default, ?rules⟩
  case acceptOtherKeys => rw [Bool.and_eq_true, mirrors.object, mirrors.acceptOtherKeys]
  case default =>
    intro v
    have hnull : v ≠ .null ↔ (!v.isNull) = true := by cases v <;> simp [Value.isNull]
    rw [Node.usableDefault?, Option.filter_eq_some_iff, mirrors.default, ← hnull]
    tauto
  case rules =>
    rw [← List.forall₂_eq_eq_eq, List.forall₂_map_left_iff, List.forall₂_map_right_iff]
    exact mirrors.rules.flip.imp fun _ _ h => h.key_eq

/-- A keyed node document shows in the documentation of its node, and its fields are those of its
field map, each loaded one level deeper. -/
theorem exists_loaded (keyed : document.Keyed)
    (h : loader.nodeAt (levels + 1) path document = .ok node) : ∃ members : Members,
      document = .object members ∧ loader.Shows members node.doc ∧
        List.Forall₂ (fun member field => field.1 = member.1 ∧ member.2.Keyed ∧
            ∃ path, loader.nodeAt levels path member.2 = .ok field.2)
          (Members.mapUnder members "format") node.fields := by
  obtain ⟨members, rfl⟩ := keyed 0 document .here
  obtain ⟨spec, type, fields, rules, hspec, hresolves, hfields, hrules, rfl⟩ :=
    nodeAt_eq_ok_iff.mp h
  rw [format_eq_mapUnder hspec] at hfields
  refine ⟨members, rfl, (assemble_mirrors hspec hresolves hrules).shows hresolves.leaf, ?_⟩
  have hkeyed := Value.keyed_object_iff.mp keyed
  have hloaded := fieldsOfMembers_eq_ok_iff.mp hfields
  exact ((List.forall₂_and_left _ _).mpr ⟨hkeyed, hloaded⟩).imp fun _ _ h =>
    ⟨h.2.1, h.1, _, h.2.2⟩

theorem documents_of_nodeAt (keyed : document.Keyed)
    (h : loader.nodeAt levels path document = .ok node) : loader.Documents document node.doc := by
  -- The levels left carry the induction: a field map takes one of them.
  induction levels generalizing path document node with
  | zero => cases h
  | succ levels ih =>
    obtain ⟨members, rfl, hshows, hfields⟩ := exists_loaded keyed h
    refine .object hshows ?names ?fields
    case names =>
      rw [Node.doc_eq, Node.docFields_eq, List.map_map]
      exact Entries.keys_eq_of_forall₂ (hfields.imp fun _ _ h => h.1)
    case fields =>
      rw [Node.doc_eq, Node.docFields_eq, List.forall₂_map_right_iff]
      exact hfields.imp fun _ _ ⟨_, hkeyed, _, hload⟩ => ih hkeyed hload

/-- The row shows a declared field, its path being made name by name from the base. -/
def RowAt (loader : Loader) (base : String) (declared : Value.Declared) (row : DocRow) : Prop :=
  ∃ doc, loader.Documents declared.document doc ∧
    row = doc.row (declared.names.foldl Doc.extend base)

theorem Documents.fieldPath_eq (h : loader.Documents document doc) (base name : String) :
    Doc.fieldPath base name doc = Doc.extend base (document.marked name) := by
  cases h with
  | @object members _ shows _ _ =>
    have hmarked : (Value.object members).marked name =
        name ++ (if doc.multiple then "[]" else "") := by
      rw [Value.marked]
      split
      case h_1 hlookup => rw [if_pos (shows.multiple.mpr hlookup)]
      case h_2 hnot => rw [if_neg (mt shows.multiple.mp hnot), String.append_empty]
    rw [hmarked, Doc.fieldPath, Doc.extend]
    split
    · rfl
    · rw [String.append_assoc]

theorem rows_of_nodeAt (keyed : document.Keyed)
    (h : loader.nodeAt levels path document = .ok node) (base : String) :
    List.Forall₂ (loader.RowAt base) document.declared (node.doc.rows base) := by
  induction levels generalizing path document node base with
  | zero => cases h
  | succ levels ih =>
    obtain ⟨members, rfl, -, hfields⟩ := exists_loaded keyed h
    rw [Value.declared_object, Node.rows_eq_fieldRows, Node.docFields_eq, Node.fieldRows_eq,
      List.flatMap_map]
    refine List.rel_flatMap hfields fun member field h => ?_
    obtain ⟨hname, hkeyed, _, hload⟩ := h
    have hdocuments := documents_of_nodeAt hkeyed hload
    have hpath := hdocuments.fieldPath_eq base member.1
    rw [Node.rowsAt, hname, hpath]
    refine .cons ⟨_, hdocuments, rfl⟩ ?_
    rw [List.forall₂_map_left_iff]
    exact ih hkeyed hload _

/-- The row shows a declared field, under the path that has the names on the way, unless a point is
lost. -/
structure RowOf (loader : Loader) (base : String) (declared : Value.Declared) (row : DocRow) :
    Prop where
  shows : ∃ doc, loader.Documents declared.document doc ∧ row = doc.row row.path
  path : row.path = Doc.dotted base declared.names ↔ ¬Doc.LosesPoint base declared.names
  lost : Doc.LosesPoint base declared.names →
    row.path = Doc.dotted "" (declared.names.dropWhile (·.isEmpty))

theorem RowAt.rowOf {base : String} {declared : Value.Declared} {row : DocRow}
    (h : loader.RowAt base declared row) : loader.RowOf base declared row := by
  obtain ⟨doc, hdoc, rfl⟩ := h
  refine ⟨⟨doc, hdoc, rfl⟩, Doc.foldl_extend_eq_iff, ?_⟩
  rintro ⟨rfl, -⟩
  exact Doc.foldl_extend_empty _

/-- The documentation of a node that a keyed document loads as tells what the document says, at
every depth. Its rows are one for each field that the document declares, each before those of the
fields below it. -/
theorem loaded_documentation (loader : Loader) {root : Value} (keyed : root.Keyed)
    (h : loader.loadNode root = .ok node) : loader.Documents root node.doc ∧
      ∀ base, List.Forall₂ (loader.RowOf base) root.declared (node.doc.rows base) := by
  refine ⟨documents_of_nodeAt keyed h, fun base => ?_⟩
  exact (rows_of_nodeAt keyed h base).imp fun _ _ hrow => hrow.rowOf

end Loader

/-! ### A document with an unnamed field -/

namespace Loader.Unnamed

def leaf : Value := .object [("type", .string "string")]

def group : Value := .object [("format", .object [("x", leaf)])]

def document : Value := .object [("format", .object [("", group)])]

def node : Node :=
  .ofFields [("", .ofFields [("x", .leaf .string)])]

def loader : Loader := { types := FieldType.builtins }

set_option maxRecDepth 10000 in
theorem load_document : loader.loadNode document = .ok node := rfl

theorem mapUnder_leaf : Members.mapUnder [("type", .string "string")] "format" = [] := rfl

theorem mapUnder_format (entries : Members) :
    Members.mapUnder [("format", .object entries)] "format" = entries := rfl

theorem keyed_document : document.Keyed := by
  have hleaf : leaf.Keyed := by simp [leaf, Value.keyed_object_iff, mapUnder_leaf]
  have hgroup : group.Keyed := by simp [group, Value.keyed_object_iff, mapUnder_format, hleaf]
  simp [document, Value.keyed_object_iff, mapUnder_format, hgroup]

theorem declared_document : document.declared = [⟨[""], group⟩, ⟨["", "x"], leaf⟩] := by
  have hleaf : leaf.declared = [] := by
    rw [leaf, Value.declared_object, mapUnder_leaf, List.flatMap_nil]
  have hgroup : group.declared = [⟨["x"], leaf⟩] := by
    rw [group, Value.declared_object, mapUnder_format, List.flatMap_singleton, Value.declaredAt,
      hleaf]
    rfl
  rw [document, Value.declared_object, mapUnder_format, List.flatMap_singleton, Value.declaredAt,
    hgroup]
  rfl

/-- Below a base, the rows have the paths that they should. -/
theorem rows_below_body : loader.Documents document node.doc ∧ ∃ row row',
    node.doc.rows "body" = [row, row'] ∧ loader.RowOf "body" ⟨[""], group⟩ row ∧
      loader.RowOf "body" ⟨["", "x"], leaf⟩ row' := by
  obtain ⟨hdoc, hrows⟩ := loaded_documentation loader keyed_document load_document
  specialize hrows "body"
  rw [declared_document, List.forall₂_cons_left_iff] at hrows
  obtain ⟨row, rows, hrow, hrows, heq⟩ := hrows
  rw [List.forall₂_cons_left_iff] at hrows
  obtain ⟨row', rows', hrow', hrows, rfl⟩ := hrows
  cases hrows
  exact ⟨hdoc, row, row', heq, hrow, hrow'⟩

/-- Without a base, the row of the inner field lacks the point after the empty name. -/
theorem point_lost : loader.loadNode document = .ok node ∧
    document.declared.map (·.names) = [[""], ["", "x"]] ∧
      (node.doc.rows "").map (·.path) = ["", "x"] ∧ Doc.dotted "" ["", "x"] = ".x" := by
  refine ⟨load_document, ?_, rfl, rfl⟩
  rw [declared_document]
  rfl

end Loader.Unnamed

end ParamSchema
