import SchemaMatch.CommandLine.Program

/-!
Contract: the program.

Owns:
- the real arguments, files and channels of a run.

Does not own: what a run does; `CommandLine.run` decides that.
-/

namespace SchemaMatch.CommandLine

/-- Why the system refused a file. -/
def FileError.ofSystem : IO.Error → FileError
  | .noFileOrDirectory .. => .notFound
  | .permissionDenied .. => .permissionDenied
  | .inappropriateType _ 21 _ => .isDirectory
  | .inappropriateType _ 20 _ => .notDirectory
  | refusal => .other (toString refusal)

/-- The content of a file, as far as the system gives it. -/
def readFile (path : String) : IO (Except FileError String) := do
  try
    let bytes ← IO.FS.readBinFile path
    match String.fromUTF8? bytes with
    | some text => return .ok text
    | none => return .error .notText
  catch error => return .error (FileError.ofSystem error)

/-- The formats of real files. -/
def formats : Formats :=
  Formats.standard fun _ => "TOML parse error"

/-- The paths that arguments name. -/
def pathsOf (arguments : List String) : List String :=
  match parse arguments with
  | .ok arguments => [arguments.data, arguments.schema] ++ arguments.config.toList
  | .error _ => []

end SchemaMatch.CommandLine

open SchemaMatch.CommandLine in
def main (arguments : List String) : IO UInt32 := do
  let contents ← (pathsOf arguments).mapM fun path => return (path, ← readFile path)
  let files : Files := fun path => (contents.lookup path).getD (.error .notFound)
  let outcome := run formats files (← IO.getEnv "RUST_LOG") arguments
  (← IO.getStdout).putStr outcome.output
  (← IO.getStderr).putStr outcome.diagnostics
  return outcome.exitCode.toUInt32
