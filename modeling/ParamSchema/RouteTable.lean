import ParamSchema.Disk
import ParamSchema.Route.Loader

/-!
Tables of routes by id. A table can be filled from texts or from the `*.route.json` files of a
directory; loading a directory depends on its content alone and not on the order of its entries.
-/

namespace ParamSchema

/-- How much is read from a directory. -/
structure TableLimits where
  maxRoutes : Nat := 256
  /-- The most bytes in a file. -/
  maxFileSize : Nat := 256 * 1024
deriving DecidableEq

/-- Routes by id. -/
structure RouteTable where
  routes : Registry Route := .empty
  limits : TableLimits := {}
deriving Inhabited

/-- Why a directory does not load. -/
inductive DirectoryFault
  | unreadable (path : String) (fault : DiskFault)
  /-- A route file that is a link. -/
  | link (name : String)
  | tooMany (max count : Nat)
  | tooLarge (size : Nat) (path : String)
  /-- A file that has become too large since it was opened. -/
  | grown (path : String)
  | unreadableFile (path : String) (fault : DiskFault)
  | route (name : String) (error : RouteError)

/-- The text of a directory fault. -/
def DirectoryFault.message (fault : DirectoryFault) : String :=
  "failed to load route: " ++
    match fault with
    | unreadable path fault => s!"{path}: {fault.message}"
    | link name => s!"refusing to load route symlink: {name}"
    | tooMany max count => s!"route count exceeds configured max ({max}): {count}"
    | tooLarge size path => s!"route file too large ({size} bytes): {path}"
    | grown path => s!"route file too large while reading: {path}"
    | unreadableFile path fault => s!"failed reading route {path}: {fault.message}"
    | route name error => s!"{name}: {error.message}"

/-- There is no route under an id. -/
structure UnknownRoute where
  id : String
deriving DecidableEq

/-- The text for an id without a route. -/
def UnknownRoute.message (fault : UnknownRoute) : String :=
  s!"no route registered for '{fault.id}'"

/-- The text without an ending, if it has it. -/
def withoutEnding? (ending text : String) : Option String :=
  if ending.toList.isSuffixOf text.toList then
    some (String.ofList (text.toList.take (text.length - ending.length)))
  else none

namespace RouteTable

/-- How the names of route files end. -/
def fileEnding : String := ".route.json"

/-- The id of the route that a file of this name holds. -/
def idOfFileName? (name : String) : Option String :=
  (withoutEnding? fileEnding name).filter fun id => !id.isEmpty

/-- Sets the route of an id. -/
def insert (table : RouteTable) (id : String) (route : Route) : RouteTable :=
  { table with routes := table.routes.insert id route }

/-- Sets the route of an id from its document. -/
def register (table : RouteTable) (types : Registry FieldType) (id text : String) :
    Except RouteError RouteTable := do
  let route ← ({ types } : Loader).readRoute text
  return table.insert id route

/-- The table of the given documents, the first that does not load being the error. -/
def ofTexts (types : Registry FieldType) (routes : List (String × String)) :
    Except RouteError RouteTable :=
  routes.foldlM (fun table (id, text) => table.register types id text) {}

/-- A change of one route of a table. -/
inductive Call
  | insert (id : String) (route : Route)
  | register (id text : String)

/-- What comes of a call, and the table after it. -/
def call (types : Registry FieldType) (table : RouteTable) :
    Call → Except RouteError Unit × RouteTable
  | .insert id route => (.ok (), table.insert id route)
  | .register id text =>
    match table.register types id text with
    | .ok changed => (.ok (), changed)
    | .error e => (.error e, table)

def get? (table : RouteTable) (id : String) : Option Route :=
  table.routes.get? id

/-- The route of an id that has one. -/
def route (table : RouteTable) (id : String) : Except UnknownRoute Route :=
  match table.get? id with
  | some route => .ok route
  | none => .error { id }

/-- The ids in increasing order. -/
def ids (table : RouteTable) : List String :=
  table.routes.names

/-- The text of a route file that had `size` bytes when it was opened and holds `bytes` when it is
read, which goes no further than one byte past the limit. -/
def readText (limits : TableLimits) (path : String) (size : Nat) (bytes : ByteArray) :
    Except DirectoryFault String := do
  if limits.maxFileSize < size then .error (.tooLarge size path)
  let taken := bytes.extract 0 (limits.maxFileSize + 1)
  let text ← (PathTarget.file taken).text.mapError (.unreadableFile path)
  if limits.maxFileSize < text.utf8ByteSize then .error (.grown path)
  return text

/-- The route in the bytes of a route file that does not change while it is read. -/
def readFile (types : Registry FieldType) (limits : TableLimits) (path name : String)
    (bytes : ByteArray) : Except DirectoryFault Route := do
  let text ← readText limits path bytes.size bytes
  (({ types } : Loader).readRoute text).mapError (.route name)

/-- Loads the entries of a directory in the order given; `count` route files came before. -/
def addEntries (types : Registry FieldType) (directory : String) :
    Nat → RouteTable → List (String × DirEntry) → Except DirectoryFault RouteTable
  | _, table, [] => .ok table
  | count, table, (name, entry) :: rest =>
    match idOfFileName? name, entry with
    | none, _ => addEntries types directory count table rest
    | some _, .link => .error (.link name)
    | some _, .other => addEntries types directory count table rest
    | some id, .file bytes =>
      if table.limits.maxRoutes < count + 1 then
        .error (.tooMany table.limits.maxRoutes (count + 1))
      else do
        let route ← readFile types table.limits (DiskPath.join directory name) name bytes
        addEntries types directory (count + 1) (table.insert id route) rest

/-- The table of the route files in a directory with these entries. -/
def ofEntries (types : Registry FieldType) (limits : TableLimits) (directory : String)
    (entries : List (String × DirEntry)) : Except DirectoryFault RouteTable :=
  addEntries types directory 0 { limits } entries

/-- The table of the route files in the directory at a path. -/
def ofDirectory (types : Registry FieldType) (limits : TableLimits) (disk : Disk) (path : String) :
    Except DirectoryFault RouteTable :=
  match disk path with
  | .missing fault => .error (.unreadable path fault)
  | .file _ => .error (.unreadable path .notDirectory)
  | .directory entries => ofEntries types limits path entries

end RouteTable

end ParamSchema
