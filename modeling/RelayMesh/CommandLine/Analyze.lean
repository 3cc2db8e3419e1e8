import RelayMesh.CommandLine.Tool
import RelayMesh.Files.Expansion
import RelayMesh.Measurement.BaselineStore
import RelayMesh.Measurement.Report

namespace RelayMesh.CommandLine.Analyze

open Files (FileSystem)
open Measurement

inductive BaselineSource where
  | given (seconds : Binary64)
  | trace (path : String)
  | none
  | stored

structure Options where
  configuration : ConfigurationOptions
  directory : Option String
  fileCount : Option Nat
  files : List String
  baseline : BaselineSource
  table : Option String

def grammar : Grammar where
  options := ConfigurationOptions.specs ++ [⟨"dir", some 'd', .single⟩,
    ⟨"num-files", some 'n', .single⟩, ⟨"files", some 'f', .many⟩, ⟨"baseline", some 'b', .single⟩,
    ⟨"trace", some 't', .single⟩, ⟨"no-baseline", Option.none, .flag⟩,
    ⟨"csv", Option.none, .single⟩]
  positionals := 0

def BaselineSource.ofArguments? (a : Arguments) : Option BaselineSource := do
  let given ← a.value? "baseline" Decimal.read?
  let trace ← a.value? "trace" path?
  match given, trace, a.has "no-baseline" with
  | some seconds, Option.none, false => return .given seconds
  | Option.none, some path, false => return .trace path
  | Option.none, Option.none, true => return .none
  | Option.none, Option.none, false => return .stored
  | _, _, _ => Option.none

def Options.ofArguments? (environment : Option String) (a : Arguments) : Option Options := do
  return {
    configuration := ← ConfigurationOptions.ofArguments? environment a
    directory := ← a.value? "dir" path?
    fileCount := ← a.value? "num-files" (Text.unsigned? UInt64.size)
    files := ← (a.values "files").mapM path?
    baseline := ← BaselineSource.ofArguments? a
    table := ← a.value? "csv" path? }

variable {m : Type → Type} [Monad m] [FileSystem m]

def baseline (c : Configuration) (directory : String) : BaselineSource → Work m (Option Binary64)
  | .given seconds => return some seconds
  | .none => return Option.none
  | .trace path => do
    let text ← orFail (fun _ => s!"Cannot read {path}") (← act (Files.readLog path))
    let seconds ← orFail (fun _ => s!"Cannot derive a baseline from {path}")
      (c.measurement.trace.compute (recordsOfText text))
    return some seconds
  | .stored => do
    let latest ← orFail BaselineError.message (← act (BaselineStore.latest ⟨directory⟩))
    return latest.map (·.2)

def files (o : Options) (c : Configuration) (directory : String) : Work m (List String) := do
  if o.files ≠ [] then return o.files
  else
    let n := o.fileCount.getD c.measurement.fileCount
    let beginnings := c.measurement.excludedBeginnings ++ [baselineBeginning]
    orFail Files.PatternError.message (← act (Files.mostRecent directory n beginnings))

def work (o : Options) : Work m Unit := do
  let c ← o.configuration.loadOrFail
  let directory := o.directory.getD c.measurement.directory
  let baseline ← baseline c directory o.baseline
  let paths ← files o c directory
  if paths = [] then throw s!"No measurement logs found in {directory}"
  let (logs, unreadable) ← act (readLogs paths)
  let report := (MeasurementReport.analyze baseline logs).withSkipped unreadable
  printLine report.text
  match o.table with
  | some path =>
    orFail (fun _ => s!"Cannot create {path}")
      (← act (Files.writeText path (Table.render report)))
  | Option.none => return ()

def run (environment : Option String) (commandLine : List String) : m Outcome :=
  match (grammar.read? commandLine).bind (Options.ofArguments? environment) with
  | some o => outcome (work o)
  | Option.none => usage

end RelayMesh.CommandLine.Analyze
