import ParamSchema.Command.Arguments
import ParamSchema.Request
import ParamSchema.RouteTable

/-!
Running commands. A run sees files through a `Disk` and gives an exit code and what goes to the
output and the error stream; it has no other effect.
-/

namespace ParamSchema

/-- What a run leaves behind. -/
structure RunResult where
  code : Nat
  out : String := ""
  err : String := ""
deriving DecidableEq

namespace ExitCode

def success : Nat := 0
def failure : Nat := 1
/-- The command line does not follow the usage. -/
def badCommandLine : Nat := 2
def permissionDenied : Nat := 50
def dataInvalid : Nat := 60
def usage : Nat := 64
def configInvalid : Nat := 78
def internal : Nat := 125

end ExitCode

/-- A run that ends with an error: its exit code and message. -/
structure RunError where
  code : Nat
  message : String

namespace RunError

/-- The result of a run that ends with an error. -/
def result (e : RunError) : RunResult :=
  { code := e.code, err := s!"error: {e.message}\n" }

def ofDisk (path : String) (fault : DiskFault) : RunError where
  code := match fault with
    | .denied => ExitCode.permissionDenied
    | .notFound => ExitCode.usage
    | _ => ExitCode.internal
  message := s!"failed reading {path}: {fault.message}"

def ofSchema (source : String) (error : SchemaError) : RunError :=
  ⟨ExitCode.configInvalid, s!"{source}: {error.message}"⟩

def ofFault (source : String) (fault : Fault) : RunError :=
  ⟨if fault.isInputError then ExitCode.dataInvalid else ExitCode.configInvalid,
    s!"{source}: {fault.message}"⟩

/-- A schema inside a route is reported as a schema. -/
def ofRoute (source : String) : RouteError → RunError
  | .schema error => ofSchema source (.load error)
  | error => ⟨ExitCode.configInvalid, s!"{source}: {error.message}"⟩

def ofDirectory (source : String) (fault : DirectoryFault) : RunError :=
  ⟨ExitCode.failure, s!"{source}: {fault.message}"⟩

end RunError

namespace Command

/-- The paths that a command looks at. -/
def paths : Command → List String
  | .check arguments =>
    arguments.schema :: match arguments.input with
      | .file path => [path]
      | _ => []
  | .request arguments => [arguments.route]
  | .describe path => [path]
  | .version _ => []

/-- The text of a file. -/
def readText (disk : Disk) (path : String) : Except RunError String :=
  (disk path).text.mapError (.ofDisk path)

/-- The value that the argument of an option stands for. -/
def jsonArgument (option text : String) : Except RunError Value :=
  (Value.read text).mapError fun fault =>
    ⟨ExitCode.usage, s!"invalid JSON for --{option}: {fault.message}"⟩

/-- The value that a check is given. -/
def checkInput (disk : Disk) : CheckInput → Except RunError (Option Value)
  | .absent => .ok none
  | .json text => (jsonArgument "value" text).map some
  | .text s => .ok (some (.string s))
  | .file path => do
    let text ← readText disk path
    return some (← jsonArgument "file" text)

/-- Checks one value against a schema file. -/
def runCheck (disk : Disk) (format : OutputFormat) (arguments : CheckArguments) :
    Except RunError RunResult := do
  let context := Context.builtins
  let schema ← readText disk arguments.schema
  let options : LoadOptions := match arguments.maxDepth with
    | some maxDepth => { maxDepth }
    | none => {}
  let node ← (({ types := context.types, options } : Loader).readNode schema).mapError
    (.ofSchema arguments.schema)
  let input ← checkInput disk arguments.input
  match node.check context arguments.name input with
  | .ok value =>
    return { code := ExitCode.success, out := Output.checked arguments.name (.ok value) format }
  | .error fault =>
    if fault.isInputError then
      return {
        code := ExitCode.dataInvalid
        out := Output.checked arguments.name (.error fault.diagnostic) format }
    else .error (.ofFault "check" fault)

/-- The value of an option that holds JSON text, if it is given. -/
def jsonOption (option : String) : Option String → Except RunError (Option Value)
  | none => .ok none
  | some text => (jsonArgument option text).map some

/-- Checks a request against a route file. -/
def runRequest (disk : Disk) (format : OutputFormat) (arguments : RequestArguments) :
    Except RunError RunResult := do
  let context := Context.builtins
  let text ← readText disk arguments.route
  let route ← (({ types := context.types } : Loader).readRoute text).mapError
    (.ofRoute arguments.route)
  let request : Request := {
    query := ← jsonOption "query" arguments.query
    body := ← jsonOption "body" arguments.body
    params := ← jsonOption "params" arguments.params }
  let keys : TargetKeys :=
    { query := arguments.queryKey, body := arguments.bodyKey, params := arguments.paramsKey }
  match request.check context keys route with
  | (request, none) =>
    return { code := ExitCode.success, out := Output.request request.validated none format }
  | (request, some fault) =>
    if fault.isInputError then
      return {
        code := ExitCode.dataInvalid
        out := Output.request request.validated (some fault.diagnostic) format }
    else .error (.ofFault "request" fault)

/-- The name of the route that the file at a path holds. -/
def routeName (path : String) : String :=
  let name := (DiskPath.fileName? path).getD ""
  ((withoutEnding? RouteTable.fileEnding name).orElse fun _ => withoutEnding? ".json" name).getD
    name

/-- The names and documentation of the routes at a path. -/
def docsAt (disk : Disk) (path : String) : Except RunError (List (String × RouteDoc)) := do
  match disk path with
  | .directory _ =>
    let table ← (RouteTable.ofDirectory FieldType.builtins {} disk path).mapError
      (.ofDirectory path)
    return table.routes.entries.map fun (id, route) => (id, route.doc)
  | target =>
    let text ← target.text.mapError (.ofDisk path)
    let route ← (({ types := FieldType.builtins } : Loader).readRoute text).mapError (.ofRoute path)
    return [(routeName path, route.doc)]

/-- Describes the routes at a path. -/
def runDescribe (disk : Disk) (format : OutputFormat) (path : String) :
    Except RunError RunResult := do
  return { code := ExitCode.success, out := Output.routeDocs (← docsAt disk path) format }

/-- The name and version of the program. -/
def versionLine : String := "valprims 0.2.1"

/-- The version, at length if asked for; `target` is what the program was built for. -/
def versionText (target : String) (extended : Bool) : String :=
  if extended then
    String.join (["name: valprims", "version: 0.2.1", s!"build_target: {target}",
      "rustc: unknown", "git_hash: unknown", "features: request=true, cli=true",
      "builtin_types: " ++ ",".intercalate FieldType.builtins.names,
      "builtin_rules: " ++ ",".intercalate Rule.builtins.names].map Output.line)
  else Output.line versionLine

/-- Runs a command. -/
def run (target : String) (disk : Disk) (format : OutputFormat) : Command →
    Except RunError RunResult
  | .check arguments => runCheck disk format arguments
  | .request arguments => runRequest disk format arguments
  | .describe path => runDescribe disk format path
  | .version extended =>
    .ok { code := ExitCode.success, out := versionText target extended }

end Command

/-- How the program is used, in short. What it prints when asked for help says more and is not this
library's. -/
def usageText : String :=
  "Usage: valprims [OPTIONS] <check|request|describe|version> [ARGS]\n"

/-- What the program is run with. -/
structure Surroundings where
  disk : Disk
  environment : Environment := fun _ => none
  /-- Whether the output goes to a terminal. -/
  terminal : Bool := false
  /-- What the program was built for. -/
  target : String

/-- Runs the program on a command line. -/
def runProgram (surroundings : Surroundings) (arguments : List String) : RunResult :=
  match Invocation.ofArguments surroundings.environment arguments with
  | .error .usage => { code := ExitCode.badCommandLine }
  | .error .help => { code := ExitCode.success, out := usageText }
  | .error .version => { code := ExitCode.success, out := Output.line Command.versionLine }
  | .ok invocation =>
    let usual : OutputFormat := if surroundings.terminal then .table else .json
    match invocation.command.run surroundings.target surroundings.disk
        (invocation.format.getD usual) with
    | .ok result => result
    | .error e => e.result

end ParamSchema
