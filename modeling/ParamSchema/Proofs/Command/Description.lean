import ParamSchema.Proofs.Command.Loading
import ParamSchema.Proofs.Disk
import ParamSchema.Proofs.RouteTable.History

/-!
Descriptions of directories. A directory is described by its route files one after another, in the
order of their ids, each as it is described by its own path.
-/

namespace ParamSchema.Command

/-- The path is described in JSON by these documents under these names. -/
structure Describes (surroundings : Surroundings) (path : String) (docs : List (String × RouteDoc))
    (out : String) : Prop where
  loads : docsAt surroundings.disk path = .ok docs
  printed : out = Output.routeDocs docs .json
  run : (describe path).run surroundings.target surroundings.disk .json =
    .ok { code := ExitCode.success, out }
  program : ∀ arguments, surroundings.Asks arguments (.describe path) .json →
    runProgram surroundings arguments = { code := ExitCode.success, out }

section Routes

variable {surroundings : Surroundings} {disk : Disk} {path id : String}
  {entries : List (String × DirEntry)} {table : RouteTable} {route : Route}
  {docs : List (String × RouteDoc)}

theorem describes_of_docsAt (h : docsAt surroundings.disk path = .ok docs) :
    Describes surroundings path docs (Output.routeDocs docs .json) := by
  have hrun : (describe path).run surroundings.target surroundings.disk .json =
      .ok { code := ExitCode.success, out := Output.routeDocs docs .json } := by
    rw [run, runDescribe, h]
    rfl
  exact ⟨h, rfl, hrun, fun _ asks => runProgram_eq_of_ok asks hrun⟩

theorem routeDocs_eq_join (docs : List (String × RouteDoc)) : Output.routeDocs docs .json =
    String.join (docs.map fun doc => Output.routeDocs [doc] .json) := by
  have hline (s : String) : String.join [s] = s := String.empty_append
  simp only [Output.routeDocs, List.map_cons, List.map_nil, hline]

/-! ### Names of route files -/

theorem isName_routeFile (noSlash : '/' ∉ (id ++ RouteTable.fileEnding).toList) :
    DiskPath.IsName (id ++ RouteTable.fileEnding) := by
  have hlength : 2 < (id ++ RouteTable.fileEnding).length := by
    rw [String.length_append]
    exact Nat.lt_add_left _ (by decide)
  refine ⟨?_, noSlash, ?_, ?_⟩ <;>
  · intro heq
    rw [heq] at hlength
    exact absurd hlength (by decide)

/-- A route file has the name that it goes by in the directory. -/
theorem routeName_join (path : String) (noSlash : '/' ∉ (id ++ RouteTable.fileEnding).toList) :
    routeName (DiskPath.join path (id ++ RouteTable.fileEnding)) = id := by
  have hid : withoutEnding? RouteTable.fileEnding (id ++ RouteTable.fileEnding) = some id :=
    withoutEnding?_eq_some_iff.mpr rfl
  simp only [routeName, DiskPath.fileName?_join path (isName_routeFile noSlash), Option.getD_some,
    hid, Option.orElse_some]

/-! ### Routes of a directory and its files -/

theorem docsAt_directory (lists : disk path = .directory entries)
    (loads : RouteTable.ofDirectory FieldType.builtins {} disk path = .ok table) :
    docsAt disk path = .ok (table.routes.entries.map fun (id, route) => (id, route.doc)) := by
  simp only [docsAt, lists, loads]
  rfl

theorem docsAt_routeFile (directory : disk.HasDirectory path entries)
    (loads : RouteTable.ofDirectory FieldType.builtins {} disk path = .ok table)
    (listed : (id, route) ∈ table.routes.entries) :
    docsAt disk (DiskPath.join path (id ++ RouteTable.fileEnding)) = .ok [(id, route.doc)] := by
  rw [RouteTable.ofDirectory_eq directory.lists] at loads
  have hholds := RouteTable.holds_of_ofEntries directory.distinct loads
  obtain ⟨-, bytes, hentry, hroute⟩ :=
    (hholds.routes id route).mp (Registry.get?_eq_some_iff.mpr listed)
  obtain ⟨text, hread, hload⟩ := hroute.loads
  have htext : disk.Holds (DiskPath.join path (id ++ RouteTable.fileEnding)) text := by
    rw [Disk.Holds, directory.files _ _ hentry, PathTarget.text, hread]
  have hname := routeName_join path (directory.noSlash _ hentry)
  rw [docsAt_file htext, routeLoader, hload, hname]
  rfl

theorem mem_ids_iff (directory : disk.HasDirectory path entries)
    (loads : RouteTable.ofDirectory FieldType.builtins {} disk path = .ok table) :
    id ∈ table.ids ↔ id ≠ "" ∧ ∃ bytes, (id ++ RouteTable.fileEnding, .file bytes) ∈ entries := by
  rw [RouteTable.ofDirectory_eq directory.lists] at loads
  obtain ⟨hloadable, hholds⟩ := (RouteTable.ofEntries_eq_ok_iff directory.distinct).mp loads
  simp only [RouteTable.mem_ids_iff_get?, hholds.routes]
  constructor
  · rintro ⟨route, hne, bytes, hentry, -⟩
    exact ⟨hne, bytes, hentry⟩
  · rintro ⟨hne, bytes, hentry⟩
    obtain ⟨route, hroute⟩ := hloadable.files id bytes hne hentry
    exact ⟨route, hne, bytes, hentry, hroute⟩

/-- A directory that loads is described by what its route files are described by, each by its own
path and under the same name, in the order of the bytes of their ids. -/
theorem describes_directory (directory : surroundings.disk.HasDirectory path entries)
    (loads : RouteTable.ofDirectory FieldType.builtins {} surroundings.disk path = .ok table) :
    ∃ docs outs,
      Describes surroundings path docs (String.join outs) ∧
        List.Forall₂ (fun doc out => Describes surroundings
          (DiskPath.join path (doc.1 ++ RouteTable.fileEnding)) [doc] out) docs outs ∧
        (docs.map (·.1)).Pairwise (fun id id' => utf8Bytes id < utf8Bytes id') ∧
        ∀ id, id ∈ docs.map (·.1) ↔
          id ≠ "" ∧ ∃ bytes, (id ++ RouteTable.fileEnding, .file bytes) ∈ entries := by
  have hdocs := docsAt_directory directory.lists loads
  generalize hgiven : (table.routes.entries.map fun (id, route) => (id, route.doc)) = docs at hdocs
  have hids : docs.map (·.1) = table.ids := by
    rw [← hgiven, List.map_map]
    rfl
  refine ⟨docs, docs.map fun doc => Output.routeDocs [doc] .json, ?whole, ?files, ?order, ?ids⟩
  case whole =>
    rw [← routeDocs_eq_join]
    exact describes_of_docsAt hdocs
  case files =>
    rw [List.forall₂_map_right_iff, List.forall₂_same]
    intro doc hdoc
    obtain ⟨⟨id, route⟩, hlisted, rfl⟩ := List.mem_map.mp (hgiven ▸ hdoc)
    exact describes_of_docsAt (docsAt_routeFile directory loads hlisted)
  case order =>
    rw [hids]
    exact RouteTable.pairwise_ids table
  case ids =>
    intro id
    rw [hids]
    exact mem_ids_iff directory loads

end Routes

/-! ### A directory with a route that is named as another file is -/

namespace Listing

def empty : ByteArray := "{}".toUTF8

def entries : List (String × FileTree) := [("shop.route.json.route.json", .file empty),
  ("latest.json", .link "shop.route.json"), ("shop.route.json", .file empty),
  ("old.route.json", .directory []), (".route.json", .file empty)]

def tree : FileTree := .directory [("routes", .directory entries)]

def surroundings : Surroundings where
  disk := tree.disk
  target := "x86_64-unknown-linux-gnu"

def listed : List (String × DirEntry) := entries.map fun (name, tree) => (name, tree.entryKind)

def table : RouteTable where
  routes := .ofList [("shop", {}), ("shop.route.json", {})]

theorem isName_routes : DiskPath.IsName "routes" := by decide

theorem wellNamed_entries : (FileTree.directory entries).WellNamed := by
  have hempty : (FileTree.directory []).WellNamed := .directory .nil nofun nofun nofun
  refine .directory (by decide) (by decide) (by decide) ?_
  simp only [entries, List.forall_mem_cons]
  exact ⟨.file _, .link _, .file _, hempty, .file _, nofun⟩

theorem wellNamed_tree : tree.WellNamed := by
  refine .directory (by decide) (by decide) (by decide) ?_
  simp only [List.forall_mem_cons]
  exact ⟨wellNamed_entries, nofun⟩

theorem lists_tree : tree.disk "routes" = .directory listed := by
  have hwalkable : FileTree.Walkable "routes" := ⟨by decide, by decide, by decide⟩
  have hfound : List.lookup "routes" [("routes", FileTree.directory entries)] =
      some (.directory entries) := rfl
  have hdirectory (target : String) : FileTree.directory entries ≠ .link target :=
    fun h => by cases h
  refine FileTree.disk_eq_directory_iff.mpr ⟨by simp [FileTree.Relative], entries, ?_, rfl⟩
  rw [DiskPath.parts_name isName_routes, tree, FileTree.walk_entry hwalkable hfound hdirectory,
    FileTree.walk]

theorem join_routes (name : String) : DiskPath.join "routes" name = "routes/" ++ name := by
  rw [DiskPath.join, DiskPath.endsWith_name isName_routes]
  rfl

set_option maxRecDepth 10000 in
theorem load_listed : RouteTable.ofEntries FieldType.builtins {} "routes" listed = .ok table := rfl

theorem describes_tree : ∃ out out',
    Describes surroundings "routes" [("shop", Route.doc {}), ("shop.route.json", Route.doc {})]
        (out ++ out') ∧
      Describes surroundings "routes/shop.route.json" [("shop", Route.doc {})] out ∧
      Describes surroundings "routes/shop.route.json.route.json"
        [("shop.route.json", Route.doc {})] out' := by
  have hdirectory : surroundings.disk.HasDirectory "routes" listed :=
    FileTree.hasDirectory wellNamed_tree lists_tree
  have hload : RouteTable.ofDirectory FieldType.builtins {} surroundings.disk "routes" =
      .ok table := (RouteTable.ofDirectory_eq lists_tree).trans load_listed
  obtain ⟨docs, outs, whole, files, -⟩ := describes_directory hdirectory hload
  obtain rfl : docs = [("shop", Route.doc {}), ("shop.route.json", Route.doc {})] :=
    Except.ok.inj (whole.loads.symm.trans (docsAt_directory lists_tree hload))
  obtain ⟨out, outs, hshop, hfiles, rfl⟩ := List.forall₂_cons_left_iff.mp files
  rw [List.forall₂_cons_left_iff] at hfiles
  obtain ⟨out', outs', hother, hfiles, rfl⟩ := hfiles
  rw [List.forall₂_nil_left_iff] at hfiles
  rw [hfiles] at whole
  rw [join_routes] at hshop hother
  exact ⟨out, out', whole, hshop, hother⟩

end Listing

end ParamSchema.Command
