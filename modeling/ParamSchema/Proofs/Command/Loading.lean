import ParamSchema.Command.Run
import ParamSchema.Proofs.RouteTable.Directory

/-!
The documents that commands load. A command `Loads` if its schema, its route or the routes of its
directory do, whatever else it is given. One that does not has a `Defect`, and the run ends with the
error for it.
-/

namespace ParamSchema

/-- The path leads to a file of this text. -/
def Disk.Holds (disk : Disk) (path text : String) : Prop :=
  (disk path).text = .ok text

/-- The command line asks for the command, and for its output in the format. -/
def Surroundings.Asks (surroundings : Surroundings) (arguments : List String) (command : Command)
    (format : OutputFormat) : Prop :=
  ∃ given, Invocation.ofArguments surroundings.environment arguments = .ok ⟨given, command⟩ ∧
    given.getD (if surroundings.terminal then .table else .json) = format

/-- What loads the schema of a check. -/
def CheckArguments.loader (arguments : CheckArguments) : Loader where
  types := FieldType.builtins
  options := arguments.maxDepth.elim {} fun maxDepth => { maxDepth }

namespace Command

section Runs

variable {surroundings : Surroundings} {arguments : List String} {disk : Disk} {target : String}
  {format : OutputFormat} {command : Command} {path text : String} {error : RunError}
  {checks : CheckArguments} {requests : RequestArguments} {entries : List (String × DirEntry)}

theorem runProgram_eq_of_ok {result : RunResult} (asks : surroundings.Asks arguments command format)
    (h : command.run surroundings.target surroundings.disk format = .ok result) :
    runProgram surroundings arguments = result := by
  obtain ⟨given, hinvocation, rfl⟩ := asks
  simp only [runProgram, hinvocation, h]

theorem runProgram_eq_of_error (asks : surroundings.Asks arguments command format)
    (h : command.run surroundings.target surroundings.disk format = .error error) :
    runProgram surroundings arguments = error.result := by
  obtain ⟨given, hinvocation, rfl⟩ := asks
  simp only [runProgram, hinvocation, h]

def routeLoader : Loader := { types := FieldType.builtins }

/-- What a command checks by, or describes, loads. -/
inductive Loads (disk : Disk) : Command → Prop
  | schema {checks : CheckArguments} {text : String} {node : Node}
    (holds : disk.Holds checks.schema text) (loads : checks.loader.readNode text = .ok node) :
    Loads disk (.check checks)
  | route {requests : RequestArguments} {text : String} {route : Route}
    (holds : disk.Holds requests.route text) (loads : routeLoader.readRoute text = .ok route) :
    Loads disk (.request requests)
  | file {path text : String} {route : Route} (holds : disk.Holds path text)
    (loads : routeLoader.readRoute text = .ok route) : Loads disk (.describe path)
  | directory {path : String} {entries : List (String × DirEntry)}
    (lists : disk path = .directory entries)
    (loads : RouteTable.Loadable FieldType.builtins {} entries) : Loads disk (.describe path)

/-- The bytes of a route file are a text, and not too many. -/
structure ReadableFile (bytes : ByteArray) : Prop where
  size : bytes.size ≤ ({} : TableLimits).maxFileSize
  text : ∃ text, String.fromUTF8? bytes = some text

/-- What a command is to load can be read: it is within the limits and no link. -/
inductive Readable (disk : Disk) : Command → Prop
  | schema {checks : CheckArguments} {text : String} (holds : disk.Holds checks.schema text) :
    Readable disk (.check checks)
  | route {requests : RequestArguments} {text : String} (holds : disk.Holds requests.route text) :
    Readable disk (.request requests)
  | file {path text : String} (holds : disk.Holds path text) : Readable disk (.describe path)
  | directory {path : String} {entries : List (String × DirEntry)}
    (lists : disk path = .directory entries) (noLinks : RouteTable.NoLinks entries)
    (count : (RouteTable.routeFiles entries).length ≤ ({} : TableLimits).maxRoutes)
    (files : ∀ id bytes, (id, bytes) ∈ RouteTable.routeFiles entries → ReadableFile bytes) :
    Readable disk (.describe path)

/-- A document that the command reads does not load, and the error is the one for it. -/
inductive Defect (disk : Disk) : Command → RunError → Prop
  | schema {checks : CheckArguments} {text : String} {e : SchemaError}
    (holds : disk.Holds checks.schema text) (fails : checks.loader.readNode text = .error e) :
    Defect disk (.check checks) (.ofSchema checks.schema e)
  | route {requests : RequestArguments} {text : String} {e : RouteError}
    (holds : disk.Holds requests.route text) (fails : routeLoader.readRoute text = .error e) :
    Defect disk (.request requests) (.ofRoute requests.route e)
  | file {path text : String} {e : RouteError} (holds : disk.Holds path text)
    (fails : routeLoader.readRoute text = .error e) :
    Defect disk (.describe path) (.ofRoute path e)
  | listed {path : String} {entries : List (String × DirEntry)} {id text : String}
    {bytes : ByteArray} {e : RouteError} (lists : disk path = .directory entries)
    (file : (id, bytes) ∈ RouteTable.routeFiles entries)
    (read : String.fromUTF8? bytes = some text) (fails : routeLoader.readRoute text = .error e) :
    Defect disk (.describe path) (.ofDirectory path (.route (id ++ RouteTable.fileEnding) e))

/-- The command describes the routes of a directory. -/
def Lists (disk : Disk) (command : Command) : Prop :=
  ∃ path entries, command = .describe path ∧ disk path = .directory entries

/-! ### Documents by their path -/

theorem readText_eq_ok_iff : readText disk path = .ok text ↔ disk.Holds path text :=
  mapError_eq_ok_iff

/-- What is left of a check when its schema is loaded. -/
def checkBy (disk : Disk) (format : OutputFormat) (checks : CheckArguments) (node : Node) :
    Except RunError RunResult := do
  let input ← checkInput disk checks.input
  match node.check Context.builtins checks.name input with
  | .ok value =>
    return { code := ExitCode.success, out := Output.checked checks.name (.ok value) format }
  | .error fault =>
    if fault.isInputError then
      return {
        code := ExitCode.dataInvalid
        out := Output.checked checks.name (.error fault.diagnostic) format }
    else .error (.ofFault "check" fault)

/-- The request that the options of a command line hold. -/
def readRequest (requests : RequestArguments) : Except RunError Request := do
  return {
    query := ← jsonOption "query" requests.query
    body := ← jsonOption "body" requests.body
    params := ← jsonOption "params" requests.params }

/-- The keys under which a request stores what is checked. -/
def targetKeys (requests : RequestArguments) : TargetKeys where
  query := requests.queryKey
  body := requests.bodyKey
  params := requests.paramsKey

/-- What is left of a request when its route is loaded. -/
def requestBy (format : OutputFormat) (requests : RequestArguments) (route : Route) :
    Except RunError RunResult := do
  let request ← readRequest requests
  match request.check Context.builtins (targetKeys requests) route with
  | (request, none) =>
    return { code := ExitCode.success, out := Output.request request.validated none format }
  | (request, some fault) =>
    if fault.isInputError then
      return {
        code := ExitCode.dataInvalid
        out := Output.request request.validated (some fault.diagnostic) format }
    else .error (.ofFault "request" fault)

theorem runCheck_eq (holds : disk.Holds checks.schema text) : runCheck disk format checks =
    (checks.loader.readNode text).mapError (.ofSchema checks.schema) >>=
      checkBy disk format checks := by
  rw [runCheck, readText_eq_ok_iff.mpr holds, ok_bind]
  obtain ⟨schema, input, name, maxDepth⟩ := checks
  cases maxDepth <;> rfl

theorem runRequest_eq (holds : disk.Holds requests.route text) :
    runRequest disk format requests =
      (routeLoader.readRoute text).mapError (.ofRoute requests.route) >>=
        requestBy format requests := by
  rw [runRequest, readText_eq_ok_iff.mpr holds, ok_bind]
  refine bind_congr fun route => ?_
  rw [requestBy, readRequest]
  -- The first option that is not JSON ends both runs; otherwise both go on with the same request.
  cases jsonOption "query" requests.query <;> cases jsonOption "body" requests.body <;>
    cases jsonOption "params" requests.params <;> rfl

theorem docsAt_file (holds : disk.Holds path text) : docsAt disk path =
    (routeLoader.readRoute text).mapError (.ofRoute path) >>= fun route =>
      .ok [(routeName path, route.doc)] := by
  unfold Disk.Holds at holds
  unfold docsAt
  cases hpath : disk path with
  | missing fault => simp [hpath, PathTarget.text] at holds
  | directory entries => simp [hpath, PathTarget.text] at holds
  | file bytes =>
    rw [hpath] at holds
    simp only [holds]
    rfl

theorem not_lists_of_holds (holds : disk.Holds path text) : ¬(describe path).Lists disk := by
  rintro ⟨path, entries, heq, hpath⟩
  cases heq
  simp [Disk.Holds, hpath, PathTarget.text] at holds

theorem code_ofRoute (source : String) (e : RouteError) :
    (RunError.ofRoute source e).code = ExitCode.configInvalid := by
  cases e <;> rfl

/-! ### Documents of a directory -/

/-- A directory whose files can be read but do not all load fails with a file that does not. -/
theorem exists_listed_defect (lists : disk path = .directory entries)
    (noLinks : RouteTable.NoLinks entries)
    (count : (RouteTable.routeFiles entries).length ≤ ({} : TableLimits).maxRoutes)
    (files : ∀ id bytes, (id, bytes) ∈ RouteTable.routeFiles entries → ReadableFile bytes)
    (defect : ¬(describe path).Loads disk) :
    ∃ fault, RouteTable.ofDirectory FieldType.builtins {} disk path = .error fault ∧
      Defect disk (describe path) (.ofDirectory path fault) := by
  rw [RouteTable.ofDirectory_eq lists]
  cases hresult : RouteTable.ofEntries FieldType.builtins {} path entries with
  | ok table =>
    have hloadable := RouteTable.exists_ofEntries_iff.mp ⟨table, hresult⟩
    exact absurd (.directory lists hloadable) defect
  | error fault =>
    refine ⟨fault, rfl, ?_⟩
    cases RouteTable.blames_of_addEntries (Nat.zero_le _) hresult with
    | link named listed => exact absurd listed (noLinks _ named)
    | tooMany hcount =>
      rw [Nat.zero_add] at hcount
      exact absurd hcount (Nat.not_lt.mpr count)
    | file listed bad =>
      have hfile := files _ _ listed
      cases bad with
      | tooLarge size => exact absurd size (Nat.not_lt.mpr hfile.size)
      | notText _ unread =>
        obtain ⟨text, hread⟩ := hfile.text
        cases hread.symm.trans unread
      | route _ read fails => exact .listed lists listed read fails

/-! ### Runs that end with a defect -/

theorem exists_defect (readable : command.Readable disk) (defect : ¬command.Loads disk) :
    ∃ error, command.Defect disk error ∧ command.run target disk format = .error error := by
  cases readable with
  | @schema checks text holds =>
    cases hload : checks.loader.readNode text with
    | ok node => exact absurd (.schema holds hload) defect
    | error e =>
      refine ⟨_, .schema holds hload, ?_⟩
      rw [run, runCheck_eq holds, hload]
      rfl
  | @route requests text holds =>
    cases hload : routeLoader.readRoute text with
    | ok route => exact absurd (.route holds hload) defect
    | error e =>
      refine ⟨_, .route holds hload, ?_⟩
      rw [run, runRequest_eq holds, hload]
      rfl
  | @file path text holds =>
    cases hload : routeLoader.readRoute text with
    | ok route => exact absurd (.file holds hload) defect
    | error e =>
      refine ⟨_, .file holds hload, ?_⟩
      rw [run, runDescribe, docsAt_file holds, hload]
      rfl
  | @directory path entries lists noLinks count files =>
    obtain ⟨fault, hfault, hdefect⟩ := exists_listed_defect lists noLinks count files defect
    refine ⟨_, hdefect, ?_⟩
    simp only [run, runDescribe, docsAt, lists, hfault]
    rfl

theorem Defect.code_of_lists (defect : command.Defect disk error) (lists : command.Lists disk) :
    error.code = ExitCode.failure := by
  cases defect with
  | schema holds fails => obtain ⟨_, _, heq, -⟩ := lists; cases heq
  | route holds fails => obtain ⟨_, _, heq, -⟩ := lists; cases heq
  | file holds fails => exact absurd lists (not_lists_of_holds holds)
  | listed lists' file read fails => rfl

theorem Defect.code_of_not_lists (defect : command.Defect disk error)
    (lists : ¬command.Lists disk) : error.code = ExitCode.configInvalid := by
  cases defect with
  | schema holds fails => rfl
  | route holds fails => exact code_ofRoute _ _
  | file holds fails => exact code_ofRoute _ _
  | listed lists' file read fails => exact absurd ⟨_, _, rfl, lists'⟩ lists

/-- A run whose documents can be read but do not load ends with the error of one that does not. Its
code tells of an invalid configuration except where the document stands in a directory. -/
theorem defect_code (asks : surroundings.Asks arguments command format)
    (readable : command.Readable surroundings.disk) (defect : ¬command.Loads surroundings.disk) :
    ∃ error, command.Defect surroundings.disk error ∧
      runProgram surroundings arguments = error.result ∧
      (command.Lists surroundings.disk → error.code = ExitCode.failure) ∧
      (¬command.Lists surroundings.disk → error.code = ExitCode.configInvalid) := by
  obtain ⟨error, hdefect, hrun⟩ := exists_defect readable defect
  exact ⟨error, hdefect, runProgram_eq_of_error asks hrun, hdefect.code_of_lists,
    hdefect.code_of_not_lists⟩

end Runs

/-! ### A directory with a route that is cut short -/

namespace CutShort

def bytes : ByteArray := "\x7b".toUTF8

def entries : List (String × DirEntry) := [("cut.route.json", .file bytes)]

def surroundings : Surroundings where
  disk path := if path = "routes" then .directory entries
    else if path = "routes/cut.route.json" then .file bytes
    else .missing .notFound
  target := "x86_64-unknown-linux-gnu"

theorem read_bytes : String.fromUTF8? bytes = some "\x7b" := rfl

theorem routeFiles_entries : RouteTable.routeFiles entries = [("cut", bytes)] := rfl

theorem asks_listing : surroundings.Asks ["describe", "routes"] (.describe "routes") .json :=
  ⟨none, by with_unfolding_all rfl, rfl⟩

theorem lists_entries : surroundings.disk "routes" = .directory entries := rfl

theorem readable_listing : (describe "routes").Readable surroundings.disk := by
  refine .directory lists_entries ?noLinks ?count ?files
  case noLinks => simp [RouteTable.NoLinks, entries]
  case count => simp [routeFiles_entries]
  case files =>
    intro id bytes' hfile
    rw [routeFiles_entries, List.mem_singleton] at hfile
    cases hfile
    exact ⟨by decide, _, read_bytes⟩

theorem not_loads_listing : ¬(describe "routes").Loads surroundings.disk := by
  intro loads
  cases loads with
  | file holds _ => exact not_lists_of_holds holds ⟨_, _, rfl, lists_entries⟩
  | directory lists loads =>
    cases lists_entries.symm.trans lists
    have hfile : ("cut", bytes) ∈ RouteTable.routeFiles entries := List.mem_singleton_self _
    obtain ⟨hne, hentry⟩ := RouteTable.mem_routeFiles.mp hfile
    obtain ⟨route, -, text, hread, hload⟩ := loads.files "cut" bytes hne hentry
    cases read_bytes.symm.trans hread
    cases hload

/-- The directory does not load, which the code of an invalid configuration does not tell. -/
theorem listing_code : ∃ error, (describe "routes").Defect surroundings.disk error ∧
    runProgram surroundings ["describe", "routes"] = error.result ∧
    error.code = ExitCode.failure := by
  obtain ⟨error, hdefect, hrun, hcode, -⟩ :=
    defect_code asks_listing readable_listing not_loads_listing
  exact ⟨error, hdefect, hrun, hcode ⟨_, _, rfl, lists_entries⟩⟩

/-- The route is an invalid configuration by its path, but not in its directory. -/
theorem code_depends_on_listing :
    (describe "routes").Readable surroundings.disk ∧ ¬(describe "routes").Loads surroundings.disk ∧
      (runProgram surroundings ["describe", "routes"]).code = 1 ∧
      (runProgram surroundings ["describe", "routes/cut.route.json"]).code = 78 := by
  refine ⟨readable_listing, not_loads_listing, ?listed, ?direct⟩
  case listed => with_unfolding_all rfl
  case direct => with_unfolding_all rfl

end CutShort

end Command

end ParamSchema
