import SchemaAtlas.CommandLine.Run
import SchemaAtlas.Engine.Head.Parser
import SchemaAtlas.Engine.Yaml.Document
import Std.Time.Format

namespace SchemaAtlas
namespace CommandLine

/-!
The program: reads the files that its arguments name, runs, and shows or writes what the run leaves.
-/

def currentTime : IO Text := do
  let now <- Std.Time.PlainDateTime.now
  return (now.format "uuuu-MM-dd'T'HH:mm:ss.SSSSSS").toList

/-- Why the system could not read a file. -/
def fileErrorOf : IO.Error -> FileError
  | .inappropriateType _ 21 _ => .isDirectory
  | .inappropriateType _ _ _ => .notDirectory
  | _ => .notFound

def readFile (path : Path) : IO (Except FileError (List UInt8)) := do
  match <- (IO.FS.readBinFile path.toText.asString).toBaseIO with
  | .ok bytes => return .ok bytes.toList
  | .error e => return .error (fileErrorOf e)

/-- The paths that a command line names for reading. -/
def pathsOf (words : List Text) : List Path :=
  match Request.ofWords words with
  | .ok (.run input a) => (input :: a.config.toList).map Path.ofText
  | _ => []

/-- The files at some paths.  There are no others. -/
def readerOf (paths : List Path) : IO Reader := do
  let found <- paths.mapM fun path => do
    let contents <- readFile path
    return (path, contents)
  return fun path => (found.lookup path).getD (.error .notFound)

/-- Writes a file, and makes the directories on the way to it. -/
def writeFile (path : Path) (text : Text) : IO Unit := do
  unless path.names.length ≤ 1 do
    IO.FS.createDirAll (Path.toText { path with names := path.names.dropLast }).asString
  IO.FS.writeFile path.toText.asString text.asString

/-- A database that no engine can open. -/
def noEngine : Database :=
  ⟨[], some (.opening, "unable to open database file")⟩

/-- Shows and writes what a run leaves, and gives its status. -/
def finish (result : Except UsageError (Except Fault Outcome)) : IO UInt32 := do
  match result with
  | .error e =>
    (<- IO.getStderr).putStr (helpText ++ e.line ++ ['\n']).asString
    return misused.toUInt32
  | .ok (.error e) =>
    (<- IO.getStderr).putStr (stopMessage e ++ ['\n']).asString
    return failed.toUInt32
  | .ok (.ok o) =>
    (<- IO.getStderr).putStr o.log.asString
    match o.written with
    | some (path, text) => writeFile path text
    | none => (<- IO.getStdout).putStr o.output.asString
    return o.status.toUInt32

end CommandLine
end SchemaAtlas

def main (arguments : List String) : IO UInt32 := do
  let words := arguments.map String.toList
  let timestamp <- SchemaAtlas.CommandLine.currentTime
  let read <- SchemaAtlas.CommandLine.readerOf (SchemaAtlas.CommandLine.pathsOf words)
  let surroundings :=
    ⟨read, SchemaAtlas.CommandLine.noEngine, timestamp, SchemaAtlas.Head.parser,
      SchemaAtlas.Yaml.reader⟩
  SchemaAtlas.CommandLine.finish (SchemaAtlas.CommandLine.run surroundings words)
