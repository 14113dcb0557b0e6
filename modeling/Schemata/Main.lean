import Schemata.CommandLine

/-!
The command line program: it reads what the command needs, runs the command and prints the outcome.
-/
namespace Schemata

/-- The system's text for the errors of reading a file. -/
def ioReason : IO.Error → String
  | .noFileOrDirectory .. => "No such file or directory (os error 2)"
  | .permissionDenied .. => "Permission denied (os error 13)"
  | .inappropriateType .. => "Is a directory (os error 21)"
  | e => toString e

def attempt (read : IO ByteArray) : IO (Except String ByteArray) := do
  try return .ok (← read)
  catch e => return .error (ioReason e)

/-- Reads to the end of the input. -/
partial def readAll (input : IO.FS.Stream) (before : ByteArray) : IO ByteArray := do
  let more ← input.read 65536
  if more.isEmpty then return before
  readAll input (before ++ more)

def readFile (path : String) : IO (Except String ByteArray) := attempt (IO.FS.readBinFile path)

/-- Reads the files that the source names, and standard input if it does. -/
def readFiles (source : Source) : IO Files := do
  let paths := source.config.toList ++ if source.input = stdinPath then [] else [source.input]
  let contents ← paths.mapM fun (path : String) => do return (path, ← readFile path)
  let stdin ←
    if source.input = stdinPath then attempt do readAll (← IO.getStdin) .empty
    else pure (.ok .empty)
  return ⟨fun path => (contents.lookup path).getD (.error "not read"), stdin⟩

end Schemata

def main (args : List String) : IO UInt32 := do
  match Schemata.Invocation.parse? args with
  | none =>
    IO.eprint Schemata.Invocation.usage
    return 2
  | some invocation =>
    let files ← Schemata.readFiles invocation.source
    match invocation.command.run invocation.source files with
    | .ok out =>
      IO.print out
      return 0
    | .error e =>
      IO.eprintln e.userMessage
      return 1
