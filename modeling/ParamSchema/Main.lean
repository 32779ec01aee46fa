import ParamSchema.Command.Run

/-!
The program. It looks at the files that a command line names, runs the command and writes what the
run gives.
-/

namespace ParamSchema

/-- The fault behind a failed access to a file. -/
def DiskFault.ofError (e : IO.Error) : DiskFault :=
  match e with
  | .noFileOrDirectory .. | .noSuchThing .. => .notFound
  | .permissionDenied .. => .denied
  | .inappropriateType _ code _ =>
    if code = 21 then .isDirectory else .notDirectory
  | e => .other (toString e)

/-- What a path leads to on this machine. -/
def lookAt (path : String) : IO PathTarget := do
  try
    let place ← IO.FS.realPath path
    if ← place.isDir then
      let entries ← (← place.readDir).toList.mapM fun entry => do
        let kind ← match (← entry.path.symlinkMetadata).type with
          | .symlink => pure DirEntry.link
          | .file => pure (DirEntry.file (← IO.FS.readBinFile entry.path))
          | _ => pure DirEntry.other
        return (entry.fileName, kind)
      return .directory entries
    else return .file (← IO.FS.readBinFile path)
  catch e => return .missing (.ofError e)

end ParamSchema

open ParamSchema in
/-- Runs the program on the files and the environment of this machine. -/
def main (arguments : List String) : IO UInt32 := do
  let logLevel ← IO.getEnv "VALPRIMS_LOG_LEVEL"
  let maxDepth ← IO.getEnv "VALPRIMS_MAX_DEPTH"
  let environment : Environment := fun name =>
    ([("VALPRIMS_LOG_LEVEL", logLevel), ("VALPRIMS_MAX_DEPTH", maxDepth)].lookup name).join
  let paths := match Invocation.ofArguments environment arguments with
    | .ok invocation => invocation.command.paths
    | .error _ => []
  let targets ← paths.mapM fun path => return (path, ← lookAt path)
  let out ← IO.getStdout
  let result := runProgram {
    disk := fun path => (targets.lookup path).getD (.missing .notFound)
    environment
    terminal := ← out.isTty
    target := "unknown" } arguments
  out.putStr result.out
  out.flush
  (← IO.getStderr).putStr result.err
  return result.code.toUInt32
