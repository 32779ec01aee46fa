import ParamSchema.Command.Output

/-!
The command line. Options may stand before or after the command, `--name value` or `--name=value`;
after `--` nothing is an option. A value given after the command wins over one before it.
-/

namespace ParamSchema

/-- What is checked. -/
inductive CheckInput
  | absent
  /-- JSON text. -/
  | json (text : String)
  /-- A string as it is. -/
  | text (s : String)
  /-- A file of JSON text. -/
  | file (path : String)

structure CheckArguments where
  schema : String
  input : CheckInput := .absent
  name : String := "value"
  maxDepth : Option Nat := none

structure RequestArguments where
  route : String
  query : Option String := none
  body : Option String := none
  params : Option String := none
  queryKey : String := "query"
  bodyKey : String := "body"
  paramsKey : String := "params"

inductive Command
  | check (arguments : CheckArguments)
  | request (arguments : RequestArguments)
  | describe (path : String)
  | version (extended : Bool)

/-- A command and the output format asked for. -/
structure Invocation where
  format : Option OutputFormat := none
  command : Command

/-- Why a command line gives nothing to run. -/
inductive ArgumentStop
  /-- It does not follow the usage. -/
  | usage
  /-- It asks for help. -/
  | help
  /-- It asks for the version. -/
  | version

/-- The variables of the environment. -/
abbrev Environment := String → Option String

namespace Arguments

/-- An option: its name, whether a value follows it, and which values may. -/
structure OptionSpec where
  name : String
  takesValue : Bool := true
  allows : String → Bool := fun _ => true

/-- What a list of arguments may hold. -/
structure Grammar where
  options : List OptionSpec
  /-- How many arguments that are no options there may be. -/
  maxPositionals : Nat
  /-- Whether `-V` and `--version` are understood. -/
  hasVersion : Bool := false

/-- The arguments taken so far. -/
structure Taken where
  options : List (String × String) := []
  positionals : List String := []

def formatOf? : String → Option OutputFormat
  | "json" => some .json
  | "table" => some .table
  | "pretty" => some .pretty
  | "raw" => some .raw
  | _ => none

/-- An unsigned number of 64 bits in digits, perhaps after a plus. -/
def sizeOf? (text : String) : Option Nat :=
  let digits := match text.toList with
    | '+' :: digits => digits
    | digits => digits
  if !digits.isEmpty && digits.all Char.isDigit then
    let n := digits.foldl (fun n c => 10 * n + (c.toNat - '0'.toNat)) 0
    if n < 2 ^ 64 then some n else none
  else none

def logLevels : List String := ["error", "warn", "info", "debug", "trace"]

/-- The options of every command. -/
def sharedOptions : List OptionSpec :=
  [{ name := "format", allows := fun v => (formatOf? v).isSome },
    { name := "log-format", allows := fun v => v = "text" || v = "json" },
    { name := "log-level", allows := logLevels.contains }]

def isPath (text : String) : Bool := !text.isEmpty

def rootGrammar : Grammar where
  options := sharedOptions
  maxPositionals := 0
  hasVersion := true

def checkGrammar : Grammar where
  options := sharedOptions ++
    [{ name := "value" }, { name := "text" }, { name := "file", allows := isPath },
      { name := "name" }, { name := "max-depth", allows := fun v => (sizeOf? v).isSome }]
  maxPositionals := 1

def requestGrammar : Grammar where
  options := sharedOptions ++
    (["query", "body", "params", "query-key", "body-key", "params-key"].map fun name => { name })
  maxPositionals := 1

def describeGrammar : Grammar where
  options := sharedOptions
  maxPositionals := 1

def versionGrammar : Grammar where
  options := sharedOptions ++ [{ name := "extended", takesValue := false }]
  maxPositionals := 0

/-- Whether an argument cannot be the value of an option that it follows. -/
def looksLikeOption (argument : String) : Bool :=
  argument.startsWith "-" && argument != "-"

/-- The option with one more value; none may be given twice. -/
def Taken.addOption (taken : Taken) (option : OptionSpec) (value : String) :
    Except ArgumentStop Taken :=
  if (taken.options.lookup option.name).isSome || !option.allows value then .error .usage
  else .ok { taken with options := (option.name, value) :: taken.options }

/-- One more argument that is no option. All of them are paths. -/
def Taken.addPositional (taken : Taken) (grammar : Grammar) (argument : String) :
    Except ArgumentStop Taken :=
  if grammar.maxPositionals ≤ taken.positionals.length || !isPath argument then .error .usage
  else .ok { taken with positionals := taken.positionals ++ [argument] }

/-- The name of a long option and the value attached to it. -/
def splitLong (argument : String) : String × Option String :=
  let body := argument.toList.drop 2
  let name := String.ofList (body.takeWhile (· ≠ '='))
  match body.dropWhile (· ≠ '=') with
  | [] => (name, none)
  | _ :: value => (name, some (String.ofList value))

/-- What an option asks for that ends the command line, if it does. -/
def stopOf? (grammar : Grammar) (argument : String) : Option ArgumentStop :=
  if argument = "--help" || argument.startsWith "-h" then some .help
  else if grammar.hasVersion && (argument = "--version" || argument.startsWith "-V") then
    some .version
  else none

/-- Takes arguments up to the first that is no option and for which `stopAt` holds; gives the rest
from there on. -/
def take (grammar : Grammar) (stopAt : String → Bool) (taken : Taken) :
    List String → Except ArgumentStop (Taken × List String)
  | [] => .ok (taken, [])
  | argument :: rest =>
    if argument = "--" then do
      return (← rest.foldlM (·.addPositional grammar) taken, [])
    else if looksLikeOption argument then
      match stopOf? grammar argument with
      | some stop => .error stop
      | none =>
        if argument.startsWith "--" then
          let (name, attached) := splitLong argument
          match grammar.options.find? (·.name = name) with
          | none => .error .usage
          | some option =>
            match option.takesValue, attached, rest with
            | true, some value, rest => do take grammar stopAt (← taken.addOption option value) rest
            | true, none, value :: rest =>
              if looksLikeOption value then .error .usage
              else do take grammar stopAt (← taken.addOption option value) rest
            | false, none, rest => do take grammar stopAt (← taken.addOption option "") rest
            | _, _, _ => .error .usage
        else .error .usage
    else if stopAt argument then .ok (taken, argument :: rest)
    else do take grammar stopAt (← taken.addPositional grammar argument) rest

/-- The value of an option. -/
def Taken.value? (taken : Taken) (name : String) : Option String :=
  taken.options.lookup name

/-- The value of an option, or else of the variable that may stand in for it. -/
def checkEnvironment (environment : Environment) (grammar : Grammar) (taken : Taken)
    (option name : String) : Except ArgumentStop (Option String) :=
  match taken.value? option, environment name with
  | some value, _ => .ok (some value)
  | none, none => .ok none
  | none, some value =>
    match grammar.options.find? (·.name = option) with
    | some spec => if spec.allows value then .ok (some value) else .error .usage
    | none => .ok none

def checkCommand (taken : Taken) (maxDepth : Option String) : Except ArgumentStop Command :=
  match taken.positionals with
  | [schema] => do
    let input ← match taken.value? "value", taken.value? "text", taken.value? "file" with
      | none, none, none => pure CheckInput.absent
      | some text, none, none => pure (.json text)
      | none, some s, none => pure (.text s)
      | none, none, some path => pure (.file path)
      | _, _, _ => .error .usage
    return .check {
      schema, input
      name := (taken.value? "name").getD "value"
      maxDepth := maxDepth.bind sizeOf? }
  | _ => .error .usage

def requestCommand (taken : Taken) : Except ArgumentStop Command :=
  match taken.positionals with
  | [route] => .ok (.request {
      route
      query := taken.value? "query"
      body := taken.value? "body"
      params := taken.value? "params"
      queryKey := (taken.value? "query-key").getD "query"
      bodyKey := (taken.value? "body-key").getD "body"
      paramsKey := (taken.value? "params-key").getD "params" })
  | _ => .error .usage

def describeCommand (taken : Taken) : Except ArgumentStop Command :=
  match taken.positionals with
  | [path] => .ok (.describe path)
  | _ => .error .usage

/-- The commands that help can be asked for. -/
def commandNames : List String := ["check", "request", "describe", "version", "help"]

/-- Reads the arguments of a command by its grammar. -/
def takeAll (environment : Environment) (grammar : Grammar) (arguments : List String) :
    Except ArgumentStop Taken := do
  let (taken, _) ← take grammar (fun _ => false) {} arguments
  let _ ← checkEnvironment environment grammar taken "log-level" "VALPRIMS_LOG_LEVEL"
  return taken

/-- The command of a name with its arguments, and the arguments taken. -/
def commandOf (environment : Environment) (name : String) (arguments : List String) :
    Except ArgumentStop (Taken × Command) :=
  match name with
  | "check" => do
    let taken ← takeAll environment checkGrammar arguments
    let maxDepth ←
      checkEnvironment environment checkGrammar taken "max-depth" "VALPRIMS_MAX_DEPTH"
    return (taken, ← checkCommand taken maxDepth)
  | "request" => do
    let taken ← takeAll environment requestGrammar arguments
    return (taken, ← requestCommand taken)
  | "describe" => do
    let taken ← takeAll environment describeGrammar arguments
    return (taken, ← describeCommand taken)
  | "version" => do
    let taken ← takeAll environment versionGrammar arguments
    return (taken, .version (taken.value? "extended").isSome)
  | "help" =>
    match arguments with
    | [] => .error .help
    | [topic] => if commandNames.contains topic then .error .help else .error .usage
    | _ => .error .usage
  | _ => .error .usage

end Arguments

/-- What a command line asks for. -/
def Invocation.ofArguments (environment : Environment) (arguments : List String) :
    Except ArgumentStop Invocation := do
  let (before, rest) ← Arguments.take Arguments.rootGrammar (fun _ => true) {} arguments
  match rest with
  | [] => .error .usage
  | name :: arguments =>
    let (after, command) ← Arguments.commandOf environment name arguments
    let format := (after.value? "format").orElse fun _ => before.value? "format"
    return { format := format.bind Arguments.formatOf?, command }

end ParamSchema
