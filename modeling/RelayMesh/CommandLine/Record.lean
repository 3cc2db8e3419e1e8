import RelayMesh.CommandLine.Tool
import RelayMesh.Files.Expansion
import RelayMesh.Measurement.BaselineStore
import RelayMesh.Measurement.Reading
import RelayMesh.Measurement.Statistics

namespace RelayMesh.CommandLine.Record

open Files (FileSystem)
open Measurement

structure Options where
  configuration : ConfigurationOptions
  capture : Option String
  directory : Option String
  dryRun : Bool

def grammar : Grammar where
  options := ConfigurationOptions.specs ++ [⟨"dir", some 'd', .single⟩,
    ⟨"dry-run", none, .flag⟩]
  positionals := 1

def Options.ofArguments? (environment : Option String) (a : Arguments) : Option Options := do
  return {
    configuration := ← ConfigurationOptions.ofArguments? environment a
    capture := ← match a.positionals with
      | [] => some none
      | capture :: _ => (path? capture).map some
    directory := ← a.value? "dir" path?
    dryRun := a.has "dry-run" }

variable {m : Type → Type} [Monad m] [FileSystem m]

def capture (o : Options) (directory : String) : Work m String :=
  match o.capture with
  | some path => return path
  | none => do
    let newest ← orFail Files.PatternError.message
      (← act (Files.mostRecent directory 1 [baselineBeginning]))
    match newest with
    | path :: _ => return path
    | [] => throw s!"No capture found in {directory}"

def work (today : Date) (o : Options) : Work m Unit := do
  let c ← o.configuration.loadOrFail
  let directory := o.directory.getD c.measurement.directory
  let path ← capture o directory
  let text ← orFail (fun _ => s!"Cannot read {path}") (← act (Files.readLog path))
  let found : Option (Summary Binary64) := summarize? (samplesOfText text)
  let some summary := found | throw s!"Cannot compute a baseline from {path}"
  printLine s!"assumed baseline: {secondsText summary.mean}"
  if o.dryRun then return ()
  else
    let _ ← orFail BaselineError.message
      (← act (BaselineStore.store ⟨directory⟩ today summary.mean))

def run (environment : Option String) (today : Date) (commandLine : List String) : m Outcome :=
  match (grammar.read? commandLine).bind (Options.ofArguments? environment) with
  | some o => outcome (work today o)
  | none => usage

end RelayMesh.CommandLine.Record
