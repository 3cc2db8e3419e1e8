import RelayMesh.CommandLine.Analyze
import RelayMesh.CommandLine.Compile
import RelayMesh.CommandLine.Record
import Std.Time

namespace RelayMesh

open Files (FileError FileInfo FileSystem)

def diskError : IO.Error → FileError
  | .noFileOrDirectory .. => .notFound
  | .alreadyExists .. => .alreadyExists
  | .inappropriateType _ code reason =>
    if code = 20 then .notADirectory else if code = 21 then .isADirectory else .other reason
  | e => .other (toString e)

def onDisk (action : IO α) : IO (Except FileError α) := do
  match ← action.toBaseIO with
  | .ok a => return .ok a
  | .error e => return .error (diskError e)

def diskInfo (path : String) : IO FileInfo := do
  let data ← (← IO.FS.realPath path).metadata
  let age := data.modified.sec.toNat * 1000000000 + data.modified.nsec.toNat
  return ⟨data.type == .dir, age⟩

def namesOnDisk (path : String) : IO (List String) := do
  let entries ← (← IO.FS.realPath path).readDir
  return entries.toList.map (·.fileName)

instance : FileSystem IO where
  read path := onDisk do return (← IO.FS.readBinFile path).toList
  write path bytes := onDisk (IO.FS.writeBinFile path ⟨bytes.toArray⟩)
  createDirectories path := onDisk (IO.FS.createDirAll path)
  list path := onDisk (namesOnDisk path)
  info path := do return (← onDisk (diskInfo path)).toOption

def currentDate : IO Date := do
  let now ← Std.Time.PlainDate.now
  return (Date.of? now.year now.month.toNat now.day.toNat).getD ⟨0, 1, 1, by decide⟩

def runTool (environment : Option String) : List String → IO CommandLine.Outcome
  | "compile" :: rest => CommandLine.Compile.run environment rest
  | "analyze_latency" :: rest => CommandLine.Analyze.run environment rest
  | "record_baseline" :: rest => do CommandLine.Record.run environment (← currentDate) rest
  | _ => CommandLine.usage

end RelayMesh

def main (arguments : List String) : IO UInt32 := do
  let outcome ← RelayMesh.runTool (← IO.getEnv "TLS_VERIFY") arguments
  IO.print outcome.output
  match outcome.status with
  | .done => pure ()
  | .failed message => IO.eprintln s!"Error: {message}"
  | .usage => IO.eprintln "error: invalid arguments"
  return UInt32.ofNat outcome.status.exitCode
