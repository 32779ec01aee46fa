import ParamSchema.Proofs.Fallible
import ParamSchema.Proofs.Registry
import ParamSchema.RouteTable

/-!
Route tables from directories. A directory loads if its route files do: `Loadable` says so without
regard to the order in which the entries are listed. The order decides at most which of several
faults is reported; `Blames` says which faults there are.
-/

namespace ParamSchema

theorem withoutEnding?_eq_some_iff {ending text front : String} :
    withoutEnding? ending text = some front ↔ text = front ++ ending := by
  unfold withoutEnding?
  rw [Option.ite_none_right_eq_some, List.isSuffixOf_iff_suffix, Option.some.injEq,
    ← String.length_toList, ← String.length_toList]
  constructor
  · rintro ⟨⟨before, hbefore⟩, rfl⟩
    apply String.toList_inj.mp
    rw [String.toList_append, String.toList_ofList, ← hbefore, List.length_append,
      Nat.add_sub_cancel, List.take_left]
  · rintro rfl
    refine ⟨⟨front.toList, String.toList_append.symm⟩, ?_⟩
    apply String.toList_inj.mp
    rw [String.toList_ofList, String.toList_append, List.length_append, Nat.add_sub_cancel,
      List.take_left]

namespace RouteTable

variable {types : Registry FieldType} {limits : TableLimits} {directory path name id : String}
  {entry : DirEntry} {entries rest : List (String × DirEntry)} {bytes : ByteArray}
  {count : Nat} {table result : RouteTable} {route : Route} {fault : DirectoryFault}

/-! ### Names -/

theorem idOfFileName?_eq_some_iff :
    idOfFileName? name = some id ↔ id ≠ "" ∧ name = id ++ fileEnding := by
  rw [idOfFileName?, Option.filter_eq_some_iff, withoutEnding?_eq_some_iff]
  simp [and_comm]

/-- The entry is not named as a route file is, or it is neither a file nor a link. -/
def Ignored (entry : String × DirEntry) : Prop :=
  idOfFileName? entry.1 = none ∨ entry.2 = .other

/-- The files among the entries that are named as route files are: the id and the bytes of each. -/
def routeFiles (entries : List (String × DirEntry)) : List (String × ByteArray) :=
  entries.filterMap fun (name, entry) =>
    match entry with
    | .file bytes => (idOfFileName? name).map fun id => (id, bytes)
    | _ => none

theorem mem_routeFiles :
    (id, bytes) ∈ routeFiles entries ↔ id ≠ "" ∧ (id ++ fileEnding, .file bytes) ∈ entries := by
  rw [routeFiles, List.mem_filterMap]
  constructor
  · rintro ⟨⟨name, entry⟩, hmem, hfile⟩
    cases entry with
    | file bytes' =>
      obtain ⟨id', hid', heq⟩ := Option.map_eq_some_iff.mp hfile
      cases heq
      obtain ⟨hne, rfl⟩ := idOfFileName?_eq_some_iff.mp hid'
      exact ⟨hne, hmem⟩
    | _ => cases hfile
  · rintro ⟨hne, hmem⟩
    refine ⟨_, hmem, ?_⟩
    simp [idOfFileName?_eq_some_iff.mpr ⟨hne, rfl⟩]

theorem routeFiles_cons_of_ignored (h : Ignored (name, entry)) :
    routeFiles ((name, entry) :: rest) = routeFiles rest := by
  rcases h with h | rfl
  · cases entry <;> simp_all [routeFiles]
  · rfl

theorem routeFiles_cons_file (h : idOfFileName? name = some id) :
    routeFiles ((name, .file bytes) :: rest) = (id, bytes) :: routeFiles rest := by
  simp [routeFiles, h]

theorem routeFiles_cons_link : routeFiles ((name, .link) :: rest) = routeFiles rest := rfl

theorem ignored_or_link_or_file (name : String) (entry : DirEntry) :
    Ignored (name, entry) ∨
      ∃ id, idOfFileName? name = some id ∧ (entry = .link ∨ ∃ bytes, entry = .file bytes) := by
  cases hid : idOfFileName? name with
  | none => exact .inl (.inl hid)
  | some id =>
    cases entry with
    | other => exact .inl (.inr rfl)
    | link => exact .inr ⟨id, rfl, .inl rfl⟩
    | file bytes => exact .inr ⟨id, rfl, .inr ⟨bytes, rfl⟩⟩

/-- Entries with distinct names are route files of distinct ids. -/
theorem nodup_routeFiles (distinct : (entries.map (·.1)).Nodup) :
    ((routeFiles entries).map (·.1)).Nodup := by
  induction entries with
  | nil => exact List.nodup_nil
  | cons first rest ih =>
    obtain ⟨name, entry⟩ := first
    obtain ⟨hname, hrest⟩ := List.nodup_cons.mp distinct
    rcases ignored_or_link_or_file name entry with h | ⟨id, hid, rfl | ⟨bytes, rfl⟩⟩
    · rw [routeFiles_cons_of_ignored h]
      exact ih hrest
    · rw [routeFiles_cons_link]
      exact ih hrest
    · rw [routeFiles_cons_file hid, List.map_cons, List.nodup_cons]
      refine ⟨fun hmem => hname ?_, ih hrest⟩
      obtain ⟨⟨id', bytes'⟩, hfile, rfl⟩ := List.mem_map.mp hmem
      obtain ⟨-, rfl⟩ := idOfFileName?_eq_some_iff.mp hid
      exact List.mem_map.mpr ⟨_, (mem_routeFiles.mp hfile).2, rfl⟩

/-! ### Reading within the limit -/

theorem utf8ByteSize_of_fromUTF8? {text : String} (h : String.fromUTF8? bytes = some text) :
    text.utf8ByteSize = bytes.size := by
  rw [String.fromUTF8?, Option.dite_none_right_eq_some] at h
  obtain ⟨valid, ⟨⟩⟩ := h
  rfl

/-- Of a file within the limit nothing is cut off, and its text is not found to be too large. -/
theorem readText_of_le {size : ℕ} (opened : size ≤ limits.maxFileSize)
    (read : bytes.size ≤ limits.maxFileSize) : readText limits path size bytes =
      (PathTarget.file bytes).text.mapError (.unreadableFile path) := by
  have htaken : bytes.extract 0 (limits.maxFileSize + 1) = bytes := by
    have hle : bytes.size ≤ limits.maxFileSize + 1 := by omega
    rw [← Nat.max_eq_left hle, ByteArray.extract_zero_max_size]
  cases htext : String.fromUTF8? bytes with
  | none =>
    simp [readText, Nat.not_lt.mpr opened, htaken, PathTarget.text, htext, Except.mapError]
  | some text =>
    have hsize := utf8ByteSize_of_fromUTF8? htext
    simp [readText, Nat.not_lt.mpr opened, htaken, PathTarget.text, htext, Except.mapError, hsize,
      Nat.not_lt.mpr read, pure, Except.pure]

/-- A file that does not change has too many bytes when it is opened or at no time. -/
theorem readText_unchanged : readText limits path bytes.size bytes =
    if limits.maxFileSize < bytes.size then .error (.tooLarge bytes.size path)
    else (PathTarget.file bytes).text.mapError (.unreadableFile path) := by
  split
  case isTrue hsize => simp [readText, hsize]
  case isFalse hsize => exact readText_of_le (Nat.not_lt.mp hsize) (Nat.not_lt.mp hsize)

/-- However a file changes after it is opened, what is read is a whole file within the limit. -/
theorem readText_eq_ok_iff {size : ℕ} {text : String} :
    readText limits path size bytes = .ok text ↔
      size ≤ limits.maxFileSize ∧ bytes.size ≤ limits.maxFileSize ∧
        String.fromUTF8? bytes = some text := by
  by_cases hopened : size ≤ limits.maxFileSize
  · by_cases hread : bytes.size ≤ limits.maxFileSize
    · rw [readText_of_le hopened hread, mapError_eq_ok_iff]
      cases htext : String.fromUTF8? bytes <;> simp [PathTarget.text, htext, hopened, hread]
    · have hcut : (bytes.extract 0 (limits.maxFileSize + 1)).size = limits.maxFileSize + 1 := by
        rw [ByteArray.size_extract]
        omega
      refine iff_of_false ?_ fun h => hread h.2.1
      cases htext : String.fromUTF8? (bytes.extract 0 (limits.maxFileSize + 1)) with
      | none =>
        simp [readText, Nat.not_lt.mpr hopened, PathTarget.text, htext, Except.mapError]
      | some taken =>
        have hsize := utf8ByteSize_of_fromUTF8? htext
        simp [readText, Nat.not_lt.mpr hopened, PathTarget.text, htext, Except.mapError, hsize,
          hcut]
  · refine iff_of_false ?_ fun h => hopened h.1
    simp [readText, Nat.not_le.mp hopened]

/-! ### One file -/

/-- The bytes are within the limit and the text of a route document. -/
structure HoldsRoute (types : Registry FieldType) (limits : TableLimits) (bytes : ByteArray)
    (route : Route) : Prop where
  size : bytes.size ≤ limits.maxFileSize
  loads : ∃ text, String.fromUTF8? bytes = some text ∧
    ({ types } : Loader).readRoute text = .ok route

theorem HoldsRoute.unique {route' : Route} (h : HoldsRoute types limits bytes route)
    (h' : HoldsRoute types limits bytes route') : route = route' := by
  obtain ⟨text, htext, hload⟩ := h.loads
  obtain ⟨text', htext', hload'⟩ := h'.loads
  cases htext.symm.trans htext'
  cases hload.symm.trans hload'
  rfl

/-- The file holds the route, which is listed under the id of the file. -/
def LoadsAs (types : Registry FieldType) (limits : TableLimits) (file : String × ByteArray)
    (loaded : String × Route) : Prop :=
  loaded.1 = file.1 ∧ HoldsRoute types limits file.2 loaded.2

/-- What is wrong with the bytes of a route file. -/
inductive BadFile (types : Registry FieldType) (limits : TableLimits) (path name : String)
    (bytes : ByteArray) : DirectoryFault → Prop
  | tooLarge (size : limits.maxFileSize < bytes.size) :
    BadFile types limits path name bytes (.tooLarge bytes.size path)
  | notText (size : bytes.size ≤ limits.maxFileSize) (text : String.fromUTF8? bytes = none) :
    BadFile types limits path name bytes (.unreadableFile path .notText)
  | route {text : String} {error : RouteError} (size : bytes.size ≤ limits.maxFileSize)
    (read : String.fromUTF8? bytes = some text)
    (fails : ({ types } : Loader).readRoute text = .error error) :
    BadFile types limits path name bytes (.route name error)

theorem readFile_of_text {text : String} (size : bytes.size ≤ limits.maxFileSize)
    (read : String.fromUTF8? bytes = some text) : readFile types limits path name bytes =
      (({ types } : Loader).readRoute text).mapError (.route name) := by
  rw [readFile, readText_eq_ok_iff.mpr ⟨size, size, read⟩, ok_bind]

/-- A route file gives its route, or the fault of its bytes. -/
theorem readFile_cases (types : Registry FieldType) (limits : TableLimits) (path name : String)
    (bytes : ByteArray) :
    (∃ route, readFile types limits path name bytes = .ok route ∧
      HoldsRoute types limits bytes route) ∨
    ∃ fault, readFile types limits path name bytes = .error fault ∧
      BadFile types limits path name bytes fault := by
  by_cases hsize : limits.maxFileSize < bytes.size
  · refine .inr ⟨_, ?_, .tooLarge hsize⟩
    rw [readFile, readText_unchanged, if_pos hsize, error_bind]
  · have hsize := Nat.not_lt.mp hsize
    cases hread : String.fromUTF8? bytes with
    | none =>
      refine .inr ⟨_, ?_, .notText hsize hread⟩
      rw [readFile, readText_of_le hsize hsize, PathTarget.text, hread]
      rfl
    | some text =>
      rw [readFile_of_text hsize hread]
      cases hload : ({ types } : Loader).readRoute text with
      | ok route => exact .inl ⟨route, rfl, hsize, text, hread, hload⟩
      | error error => exact .inr ⟨_, rfl, .route hsize hread hload⟩

theorem readFile_eq_ok_iff :
    readFile types limits path name bytes = .ok route ↔ HoldsRoute types limits bytes route := by
  constructor
  · intro h
    rcases readFile_cases types limits path name bytes with ⟨_, hok, hroute⟩ | ⟨_, herror, -⟩
    · cases hok.symm.trans h
      exact hroute
    · cases herror.symm.trans h
  · rintro ⟨hsize, text, hread, hload⟩
    rw [readFile_of_text hsize hread, hload]
    rfl

/-! ### Entry by entry -/

theorem addEntries_cons_of_ignored (h : Ignored (name, entry)) :
    addEntries types directory count table ((name, entry) :: rest) =
      addEntries types directory count table rest := by
  rcases h with h | rfl
  · simp only [addEntries, show idOfFileName? name = none from h]
  · cases hid : idOfFileName? name <;> simp only [addEntries, hid]

theorem addEntries_cons_link (h : idOfFileName? name = some id) :
    addEntries types directory count table ((name, .link) :: rest) = .error (.link name) := by
  simp only [addEntries, h]

theorem addEntries_cons_file (h : idOfFileName? name = some id) :
    addEntries types directory count table ((name, .file bytes) :: rest) =
      if table.limits.maxRoutes < count + 1 then
        .error (.tooMany table.limits.maxRoutes (count + 1))
      else
        readFile types table.limits (DiskPath.join directory name) name bytes >>= fun route =>
          addEntries types directory (count + 1) (table.insert id route) rest := by
  simp only [addEntries, h]

/-- No entry that is named as a route file is a link. -/
def NoLinks (entries : List (String × DirEntry)) : Prop :=
  ∀ id, id ≠ "" → (id ++ fileEnding, .link) ∉ entries

theorem noLinks_cons_of_ignored (h : Ignored (name, entry)) :
    NoLinks ((name, entry) :: rest) ↔ NoLinks rest := by
  have hnot : ∀ id, id ≠ "" → (id ++ fileEnding, DirEntry.link) ≠ (name, entry) := by
    rintro id hne heq
    cases heq
    rcases h with h | h
    · simp [idOfFileName?_eq_some_iff.mpr ⟨hne, rfl⟩] at h
    · cases h
  constructor
  · exact fun hlinks id hne hmem => hlinks id hne (List.mem_cons_of_mem _ hmem)
  · intro hlinks id hne hmem
    rcases List.mem_cons.mp hmem with heq | hmem
    · exact hnot id hne heq
    · exact hlinks id hne hmem

theorem noLinks_cons_file : NoLinks ((name, .file bytes) :: rest) ↔ NoLinks rest := by
  simp [NoLinks]

/-- A run over the entries succeeds if none is a link, there is room for the route files and each
holds a route; these are what it adds to the table. -/
theorem addEntries_eq_ok_iff (room : count ≤ table.limits.maxRoutes) :
    addEntries types directory count table entries = .ok result ↔
      NoLinks entries ∧ count + (routeFiles entries).length ≤ table.limits.maxRoutes ∧
      ∃ routes, List.Forall₂ (LoadsAs types table.limits) (routeFiles entries) routes ∧
        result = { table with routes := table.routes.insertAll routes } := by
  -- `room` is kept from entry to entry: the limit is checked before a file is counted.
  induction entries generalizing count table with
  | nil => simp [addEntries, routeFiles, NoLinks, room, Registry.insertAll, eq_comm]
  | cons first rest ih =>
    obtain ⟨name, entry⟩ := first
    rcases ignored_or_link_or_file name entry with h | ⟨id, hid, rfl | ⟨bytes, rfl⟩⟩
    · rw [addEntries_cons_of_ignored h, ih room, noLinks_cons_of_ignored h,
        routeFiles_cons_of_ignored h]
    · rw [addEntries_cons_link hid]
      obtain ⟨hne, rfl⟩ := idOfFileName?_eq_some_iff.mp hid
      constructor
      · nofun
      · rintro ⟨hlinks, -⟩
        exact absurd List.mem_cons_self (hlinks id hne)
    · rw [addEntries_cons_file hid, noLinks_cons_file, routeFiles_cons_file hid, List.length_cons]
      by_cases hfull : table.limits.maxRoutes < count + 1
      · rw [if_pos hfull]
        constructor
        · nofun
        · rintro ⟨-, hcount, -⟩
          omega
      · rw [if_neg hfull, bind_eq_ok_iff]
        have hroom (route) : count + 1 ≤ (table.insert id route).limits.maxRoutes :=
          Nat.not_lt.mp hfull
        constructor
        · rintro ⟨route, hread, hrest⟩
          obtain ⟨hlinks, hcount, routes, hroutes, rfl⟩ := (ih (hroom route)).mp hrest
          have hroute := readFile_eq_ok_iff.mp hread
          refine ⟨hlinks, ?_, (id, route) :: routes, .cons ⟨rfl, hroute⟩ hroutes, rfl⟩
          rw [← Nat.add_assoc, Nat.add_right_comm]
          exact hcount
        · rintro ⟨hlinks, hcount, routes, hroutes, rfl⟩
          rw [List.forall₂_cons_left_iff] at hroutes
          obtain ⟨⟨id', route⟩, routes, ⟨rfl, hroute⟩, hroutes, rfl⟩ := hroutes
          refine ⟨route, readFile_eq_ok_iff.mpr hroute, (ih (hroom route)).mpr ?_⟩
          refine ⟨hlinks, ?_, routes, hroutes, rfl⟩
          rw [Nat.add_right_comm, Nat.add_assoc]
          exact hcount

def namesRoute (entry : String × DirEntry) : Bool := (idOfFileName? entry.1).isSome

/-- Entries with other names are passed over. -/
theorem addEntries_filter : addEntries types directory count table (entries.filter namesRoute) =
    addEntries types directory count table entries := by
  induction entries generalizing count table with
  | nil => rfl
  | cons first rest ih =>
    obtain ⟨name, entry⟩ := first
    cases hid : idOfFileName? name with
    | none =>
      rw [List.filter_cons_of_neg (by simp [namesRoute, hid]), ih,
        addEntries_cons_of_ignored (.inl hid)]
    | some id =>
      rw [List.filter_cons_of_pos (by simp [namesRoute, hid])]
      cases entry with
      | other =>
        rw [addEntries_cons_of_ignored (.inr rfl), addEntries_cons_of_ignored (.inr rfl), ih]
      | link => rw [addEntries_cons_link hid, addEntries_cons_link hid]
      | file bytes => simp only [addEntries_cons_file hid, ih]

/-- What keeps the route files of a directory from loading when `seen` of them came before. -/
inductive Blames (types : Registry FieldType) (limits : TableLimits) (directory : String)
    (seen : Nat) (entries : List (String × DirEntry)) : DirectoryFault → Prop
  | link {id : String} (named : id ≠ "") (listed : (id ++ fileEnding, .link) ∈ entries) :
    Blames types limits directory seen entries (.link (id ++ fileEnding))
  | tooMany (count : limits.maxRoutes < seen + (routeFiles entries).length) :
    Blames types limits directory seen entries (.tooMany limits.maxRoutes (limits.maxRoutes + 1))
  | file {id : String} {bytes : ByteArray} {fault : DirectoryFault}
    (listed : (id, bytes) ∈ routeFiles entries)
    (bad : BadFile types limits (DiskPath.join directory (id ++ fileEnding)) (id ++ fileEnding)
      bytes fault) : Blames types limits directory seen entries fault

theorem Blames.cons (h : Blames types limits directory (count + 1) rest fault)
    (hid : idOfFileName? name = some id) :
    Blames types limits directory count ((name, .file bytes) :: rest) fault := by
  cases h with
  | link named listed => exact .link named (List.mem_cons_of_mem _ listed)
  | tooMany hcount =>
    apply Blames.tooMany
    rw [routeFiles_cons_file hid, List.length_cons]
    omega
  | file listed bad =>
    refine .file ?_ bad
    rw [routeFiles_cons_file hid]
    exact List.mem_cons_of_mem _ listed

theorem Blames.cons_of_ignored (h : Blames types limits directory count rest fault)
    (hignored : Ignored (name, entry)) :
    Blames types limits directory count ((name, entry) :: rest) fault := by
  cases h with
  | link named listed => exact .link named (List.mem_cons_of_mem _ listed)
  | tooMany hcount => exact .tooMany (by rwa [routeFiles_cons_of_ignored hignored])
  | file listed bad => exact .file (by rwa [routeFiles_cons_of_ignored hignored]) bad

/-- A run that fails blames an entry, or their number. -/
theorem blames_of_addEntries (room : count ≤ table.limits.maxRoutes)
    (h : addEntries types directory count table entries = .error fault) :
    Blames types table.limits directory count entries fault := by
  induction entries generalizing count table with
  | nil => cases h
  | cons first rest ih =>
    obtain ⟨name, entry⟩ := first
    rcases ignored_or_link_or_file name entry with hignored | ⟨id, hid, rfl | ⟨bytes, rfl⟩⟩
    · rw [addEntries_cons_of_ignored hignored] at h
      exact (ih room h).cons_of_ignored hignored
    · rw [addEntries_cons_link hid] at h
      obtain ⟨hne, rfl⟩ := idOfFileName?_eq_some_iff.mp hid
      cases h
      exact .link hne List.mem_cons_self
    · rw [addEntries_cons_file hid] at h
      by_cases hfull : table.limits.maxRoutes < count + 1
      · rw [if_pos hfull] at h
        obtain rfl : count = table.limits.maxRoutes := by omega
        cases h
        apply Blames.tooMany
        rw [routeFiles_cons_file hid, List.length_cons]
        omega
      · rw [if_neg hfull] at h
        rcases bind_eq_error_iff.mp h with h | ⟨route, -, h⟩
        · rcases readFile_cases types table.limits _ name bytes with ⟨_, hok, -⟩ | ⟨e, herror, hbad⟩
          · cases hok.symm.trans h
          · cases herror.symm.trans h
            obtain ⟨-, rfl⟩ := idOfFileName?_eq_some_iff.mp hid
            exact .file (by rw [routeFiles_cons_file hid]; exact List.mem_cons_self) hbad
        · have hroom : count + 1 ≤ (table.insert id route).limits.maxRoutes := Nat.not_lt.mp hfull
          exact (ih hroom h).cons hid

/-! ### The whole directory -/

/-- The routes of a directory load: no route file is a link, they are not too many, and each holds a
route. -/
structure Loadable (types : Registry FieldType) (limits : TableLimits)
    (entries : List (String × DirEntry)) : Prop where
  noLinks : NoLinks entries
  count : (routeFiles entries).length ≤ limits.maxRoutes
  files : ∀ id bytes, id ≠ "" → (id ++ fileEnding, .file bytes) ∈ entries →
    ∃ route, HoldsRoute types limits bytes route

/-- The table has the routes in the route files of the directory, each under its id, and no
others. -/
structure Holds (types : Registry FieldType) (limits : TableLimits)
    (entries : List (String × DirEntry)) (table : RouteTable) : Prop where
  within : table.limits = limits
  routes : ∀ id route, table.get? id = some route ↔ id ≠ "" ∧
    ∃ bytes, (id ++ fileEnding, .file bytes) ∈ entries ∧ HoldsRoute types limits bytes route

theorem Holds.unique {table' : RouteTable} (h : Holds types limits entries table)
    (h' : Holds types limits entries table') : table = table' := by
  have hroutes : table.routes = table'.routes := by
    refine Registry.ext_get? fun id => ?_
    ext route
    exact (h.routes id route).trans (h'.routes id route).symm
  cases table
  cases table'
  cases h.within.trans h'.within.symm
  cases hroutes
  rfl

theorem Loadable.of_perm {listed : List (String × DirEntry)} (h : Loadable types limits entries)
    (order : listed.Perm entries) : Loadable types limits listed where
  noLinks id hne hmem := h.noLinks id hne (order.mem_iff.mp hmem)
  count := (order.filterMap _).length_eq ▸ h.count
  files id bytes hne hmem := h.files id bytes hne (order.mem_iff.mp hmem)

theorem Holds.of_perm {listed : List (String × DirEntry)} (h : Holds types limits entries table)
    (order : listed.Perm entries) : Holds types limits listed table where
  within := h.within
  routes id route := by simp only [h.routes, order.mem_iff]

/-- The table that a run over all entries of a directory gives. -/
theorem holds_of_loaded {routes : List (String × Route)} (distinct : (entries.map (·.1)).Nodup)
    (loaded : List.Forall₂ (LoadsAs types limits) (routeFiles entries) routes) :
    Holds types limits entries { routes := Registry.empty.insertAll routes, limits } := by
  have hkeys : routes.map (·.1) = (routeFiles entries).map (·.1) :=
    Entries.keys_eq_of_forall₂ (loaded.imp fun _ _ h => h.1)
  have hnodup : (routes.map (·.1)).Nodup := hkeys ▸ nodup_routeFiles distinct
  refine ⟨rfl, fun id route => ?_⟩
  rw [get?, Registry.get?_insertAll hnodup, Registry.get?_empty, Option.or_none,
    Entries.lookup_eq_some_iff_mem hnodup]
  constructor
  · intro hmem
    obtain ⟨⟨_, bytes⟩, hfile, rfl, hroute⟩ := exists_of_forall₂ loaded hmem
    obtain ⟨hne, hentry⟩ := mem_routeFiles.mp hfile
    exact ⟨hne, bytes, hentry, hroute⟩
  · rintro ⟨hne, bytes, hentry, hroute⟩
    have hfile := mem_routeFiles.mpr ⟨hne, hentry⟩
    obtain ⟨⟨_, route'⟩, hmem, rfl, hroute'⟩ := exists_of_forall₂ loaded.flip hfile
    exact hroute.unique hroute' ▸ hmem

/-- The files of a loadable directory have routes beside them. -/
theorem Loadable.exists_routes (h : Loadable types limits entries) :
    ∃ routes, List.Forall₂ (LoadsAs types limits) (routeFiles entries) routes := by
  refine exists_forall₂ fun file hfile => ?_
  obtain ⟨hne, hentry⟩ := mem_routeFiles.mp hfile
  obtain ⟨route, hroute⟩ := h.files file.1 file.2 hne hentry
  exact ⟨(file.1, route), rfl, hroute⟩

theorem exists_ofEntries_iff :
    (∃ table, ofEntries types limits directory entries = .ok table) ↔
      Loadable types limits entries := by
  simp only [ofEntries, addEntries_eq_ok_iff (Nat.zero_le _), Nat.zero_add]
  constructor
  · rintro ⟨table, hlinks, hcount, routes, hroutes, -⟩
    refine ⟨hlinks, hcount, fun id bytes hne hentry => ?_⟩
    have hfile := mem_routeFiles.mpr ⟨hne, hentry⟩
    obtain ⟨entry, -, -, hroute⟩ := exists_of_forall₂ hroutes.flip hfile
    exact ⟨entry.2, hroute⟩
  · intro h
    obtain ⟨routes, hroutes⟩ := h.exists_routes
    exact ⟨_, h.noLinks, h.count, routes, hroutes, rfl⟩

/-- The table of a directory that loads. -/
theorem holds_of_ofEntries (distinct : (entries.map (·.1)).Nodup)
    (h : ofEntries types limits directory entries = .ok table) :
    Holds types limits entries table := by
  obtain ⟨-, -, routes, hroutes, rfl⟩ := (addEntries_eq_ok_iff (Nat.zero_le _)).mp h
  exact holds_of_loaded distinct hroutes

/-- A directory loads as a table exactly if it is loadable and the table holds its routes. -/
theorem ofEntries_eq_ok_iff (distinct : (entries.map (·.1)).Nodup) :
    ofEntries types limits directory entries = .ok table ↔
      Loadable types limits entries ∧ Holds types limits entries table := by
  constructor
  · exact fun h => ⟨exists_ofEntries_iff.mp ⟨table, h⟩, holds_of_ofEntries distinct h⟩
  · rintro ⟨hloadable, hholds⟩
    obtain ⟨loaded, h⟩ := exists_ofEntries_iff.mpr hloadable
    rwa [hholds.unique (holds_of_ofEntries distinct h)]

theorem ofDirectory_eq {disk : Disk} (lists : disk path = .directory entries) :
    ofDirectory types limits disk path = ofEntries types limits path entries := by
  rw [ofDirectory, lists]

/-- What loading a directory comes to, given how it is loaded from a listing of its entries. -/
structure Outcome (types : Registry FieldType) (limits : TableLimits) (path : String)
    (entries : List (String × DirEntry))
    (load : List (String × DirEntry) → Except DirectoryFault RouteTable) : Prop where
  succeeds : (∃ table, load entries = .ok table) ↔ Loadable types limits entries
  holds : ∀ table, load entries = .ok table → Holds types limits entries table
  blames : ∀ fault, load entries = .error fault → Blames types limits path 0 entries fault
  message : ∀ fault, load entries = .error fault →
    ∃ text, fault.message = "failed to load route: " ++ text
  order : ∀ listed, listed.Perm entries → (load listed).toOption = (load entries).toOption
  others : ∀ listed, listed.filter namesRoute = entries.filter namesRoute →
    load listed = load entries

theorem toOption_ofEntries_of_perm {listed : List (String × DirEntry)} (order : listed.Perm entries)
    (distinct : (entries.map (·.1)).Nodup) :
    (ofEntries types limits directory listed).toOption =
      (ofEntries types limits directory entries).toOption := by
  have hdistinct : (listed.map (·.1)).Nodup := (order.map _).nodup_iff.mpr distinct
  ext table
  rw [toOption_eq_some_iff, toOption_eq_some_iff, ofEntries_eq_ok_iff hdistinct,
    ofEntries_eq_ok_iff distinct]
  constructor
  · rintro ⟨hloadable, hholds⟩
    exact ⟨hloadable.of_perm order.symm, hholds.of_perm order.symm⟩
  · rintro ⟨hloadable, hholds⟩
    exact ⟨hloadable.of_perm order, hholds.of_perm order⟩

/-- Whether a directory loads, and as which table, depends on its route files alone and not on the
order in which its entries are listed. -/
theorem ofDirectory_outcome (types : Registry FieldType) (limits : TableLimits) {path : String}
    {entries : List (String × DirEntry)} (disk : List (String × DirEntry) → Disk)
    (lists : ∀ listed, disk listed path = .directory listed)
    (distinct : (entries.map (·.1)).Nodup) :
    Outcome types limits path entries fun listed =>
      ofDirectory types limits (disk listed) path := by
  have hload : ∀ listed, ofDirectory types limits (disk listed) path =
      ofEntries types limits path listed := fun listed => ofDirectory_eq (lists listed)
  simp only [hload]
  refine ⟨?succeeds, ?holds, ?blames, ?message, ?order, ?others⟩
  case succeeds => exact exists_ofEntries_iff
  case holds => exact fun table h => holds_of_ofEntries distinct h
  case blames => exact fun fault h => blames_of_addEntries (Nat.zero_le _) h
  case message => exact fun fault _ => ⟨_, rfl⟩
  case order => exact fun listed h => toOption_ofEntries_of_perm h distinct
  case others =>
    intro listed h
    rw [ofEntries, ofEntries, ← addEntries_filter, h, addEntries_filter]

/-! ### A directory -/

namespace Shop

def empty : ByteArray := "{}".toUTF8

/-- Two route files of two bytes each, a link and a directory that do not count. -/
def listing : List (String × DirEntry) :=
  [("orders.route.json", .file empty), ("latest.json", .link), ("carts.route.json", .file empty),
    ("old.route.json", .other), (".route.json", .link)]

/-- As many files and bytes as there are. -/
def tight : TableLimits := { maxRoutes := 2, maxFileSize := 2 }

def disk (listed : List (String × DirEntry)) : Disk := fun path =>
  if path = "routes" then .directory listed else .missing .notFound

def shop : RouteTable where
  routes := .ofList [("carts", {}), ("orders", {})]
  limits := tight

set_option maxRecDepth 10000 in
theorem load_shop : ofDirectory FieldType.builtins tight (disk listing) "routes" = .ok shop := rfl

/-- The directory loads as the same table when it is listed backwards. -/
theorem shop_reversed :
    (ofDirectory FieldType.builtins tight (disk listing.reverse) "routes").toOption =
      some shop := by
  have hshop : Outcome FieldType.builtins tight "routes" listing fun listed =>
      ofDirectory FieldType.builtins tight (disk listed) "routes" :=
    ofDirectory_outcome FieldType.builtins tight disk (fun _ => if_pos rfl) (by decide)
  rw [hshop.order listing.reverse (List.reverse_perm listing), load_shop]
  rfl

end Shop

end RouteTable

end ParamSchema
