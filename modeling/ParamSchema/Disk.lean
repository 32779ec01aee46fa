/-!
Files as the program sees them: what a path leads to, links followed, and what the entries of a
directory are, links not followed. A `FileTree` is a directory in memory in which paths can be
walked.
-/

namespace ParamSchema

/-- Why a path cannot be opened or read. -/
inductive DiskFault
  | notFound
  | notDirectory
  | isDirectory
  | denied
  /-- The bytes are not UTF-8. -/
  | notText
  | other (message : String)
deriving DecidableEq

def DiskFault.message : DiskFault → String
  | notFound => "No such file or directory (os error 2)"
  | notDirectory => "Not a directory (os error 20)"
  | isDirectory => "Is a directory (os error 21)"
  | denied => "Permission denied (os error 13)"
  | notText => "stream did not contain valid UTF-8"
  | other message => message

/-- An entry of a directory, links not followed. -/
inductive DirEntry
  | file (bytes : ByteArray)
  | link
  /-- A directory, or something else that is no file. -/
  | other

/-- What a path leads to, links followed. -/
inductive PathTarget
  | missing (fault : DiskFault)
  | file (bytes : ByteArray)
  | directory (entries : List (String × DirEntry))

/-- What each path leads to. -/
abbrev Disk := String → PathTarget

/-- The text of a file. -/
def PathTarget.text : PathTarget → Except DiskFault String
  | missing fault => .error fault
  | directory _ => .error .isDirectory
  | file bytes =>
    match String.fromUTF8? bytes with
    | some text => .ok text
    | none => .error .notText

namespace DiskPath

/-- The path of an entry of a directory. -/
def join (directory name : String) : String :=
  if directory.isEmpty || directory.endsWith "/" then directory ++ name
  else directory ++ "/" ++ name

/-- The texts between the slashes of a path. -/
def pieces (path : String) : List String := (path.split '/').toStringList

/-- The names on a path. A slash at the end asks for a directory, as a dot does. -/
def parts (path : String) : List String :=
  ((pieces path).filter fun part => !part.isEmpty) ++ (if path.endsWith "/" then ["."] else [])

/-- The name of what the path leads to, if its last part is a name. -/
def fileName? (path : String) : Option String :=
  match ((pieces path).filter fun part => !part.isEmpty && part != ".").getLast? with
  | some ".." => none
  | name => name

end DiskPath

/-- A file, a link or a directory in memory. -/
inductive FileTree
  | file (bytes : ByteArray)
  | link (target : String)
  | directory (entries : List (String × FileTree))
deriving Inhabited

namespace FileTree

/-- The tree with another placed at a path; directories on the way are made. -/
def place (made : FileTree) : List String → FileTree → FileTree
  | [], _ => made
  | name :: rest, tree =>
    let entries := match tree with
      | directory entries => entries
      | _ => []
    let below := (entries.lookup name).getD (directory [])
    let placed := (name, place made rest below)
    if (entries.lookup name).isSome then
      directory (entries.map fun entry => if entry.1 = name then placed else entry)
    else directory (entries ++ [placed])

def entryKind : FileTree → DirEntry
  | file bytes => .file bytes
  | link _ => .link
  | directory _ => .other

/-- The most links that one path may lead through. -/
def maxLinks : Nat := 40

/-- The longest name, in bytes. -/
def maxName : Nat := 255

/-- Walks the parts of a path from a directory, whose parents are `above`, through at most `links`
links. -/
def walk (links : Nat) (above : List FileTree) (here : FileTree) (parts : List String) :
    Except DiskFault FileTree :=
  match parts with
  | [] => .ok here
  | part :: rest =>
    match here with
    | directory entries =>
      if part = "." then walk links above here rest
      else if part = ".." then
        match above with
        | parent :: above => walk links above parent rest
        | [] => .error .notFound
      else if maxName < part.utf8ByteSize then .error (.other "File name too long (os error 36)")
      else
        match entries.lookup part with
        | none => .error .notFound
        | some (link target) =>
          match links with
          | 0 => .error (.other "Too many levels of symbolic links (os error 40)")
          | links + 1 =>
            if target.isEmpty || target.startsWith "/" then .error .notFound
            else walk links above here (DiskPath.parts target ++ rest)
        | some next => walk links (here :: above) next rest
    | _ => .error .notDirectory
termination_by (links, parts.length)

/-- What a path leads to from the root of the tree. -/
def disk (root : FileTree) : Disk := fun path =>
  if path.isEmpty || path.startsWith "/" then .missing .notFound
  else
    match walk maxLinks [] root (DiskPath.parts path) with
    | .error fault => .missing fault
    | .ok (file bytes) => .file bytes
    | .ok (directory entries) =>
      .directory (entries.map fun (name, tree) => (name, tree.entryKind))
    | .ok (link _) => .missing .notFound

end FileTree

end ParamSchema
