import RelayMesh.Decimal.Style
import RelayMesh.Files.System
import RelayMesh.Measurement.Reading
import RelayMesh.Measurement.Statistics

namespace RelayMesh.Measurement

structure FileReport where
  name : String
  report : LatencyReport Binary64
deriving DecidableEq, Inhabited

structure SkippedFile where
  name : String
  reason : String
deriving DecidableEq, Inhabited

structure MeasurementReport where
  files : List FileReport
  skipped : List SkippedFile
  aggregate : Option (LatencyReport Binary64)
deriving DecidableEq, Inhabited

abbrev Log := String × List Char

def reportOn? (baseline : Option Binary64) (samples : List Nat) : Option (LatencyReport Binary64) :=
  (summarize? samples).map (·.withBaseline baseline)

structure Collected where
  files : List FileReport
  skipped : List SkippedFile
  samples : List Nat
deriving DecidableEq, Inhabited

def collect (baseline : Option Binary64) : List Log → Collected
  | [] => ⟨[], [], []⟩
  | (name, text) :: rest =>
    let c := collect baseline rest
    let samples := samplesOfText text
    match reportOn? baseline samples with
    | some report => { c with files := ⟨name, report⟩ :: c.files, samples := samples ++ c.samples }
    | none => { c with skipped := ⟨name, emptyMessage⟩ :: c.skipped }

namespace MeasurementReport

def analyze (baseline : Option Binary64) (logs : List Log) : MeasurementReport :=
  let c := collect baseline logs
  ⟨c.files, c.skipped, reportOn? baseline c.samples⟩

def withSkipped (r : MeasurementReport) (files : List SkippedFile) : MeasurementReport :=
  { r with skipped := r.skipped ++ files }

def hasData (r : MeasurementReport) : Bool :=
  r.aggregate.isSome

def lines (r : MeasurementReport) : List String :=
  (r.files.map fun f => s!"{f.name}: {f.report.text}")
    ++ (r.skipped.map fun f => s!"{f.name}: skipped ({f.reason})")
    ++ [match r.aggregate with
        | some report => s!"total: {report.text}"
        | none => "no data"]

def text (r : MeasurementReport) : String :=
  "\n".intercalate r.lines

end MeasurementReport

open Files (FileSystem)

variable {m : Type → Type} [Monad m] [FileSystem m]

/-- The logs at some paths by their file names, and the files that cannot be read. -/
def readLogs : List String → m (List Log × List SkippedFile)
  | [] => return ([], [])
  | path :: rest => do
    let result ← Files.readLog path
    let (logs, unreadable) ← readLogs rest
    match result with
    | .ok text => return ((Files.fileName path, text) :: logs, unreadable)
    | .error e =>
      return (logs, ⟨Files.fileName path, s!"cannot read: {e.message}"⟩ :: unreadable)

end RelayMesh.Measurement

namespace RelayMesh.Measurement.Table

def needsQuotes (c : Char) : Bool :=
  c == ',' || c == '"' || c == '\r' || c == '\n'

def field (s : String) : List Char :=
  if s.toList.any needsQuotes then
    '"' :: (s.toList.flatMap (fun c => if c = '"' then ['"', '"'] else [c]) ++ ['"'])
  else s.toList

def line (fields : List (List Char)) : List Char :=
  [','].intercalate fields ++ ['\n']

def columns : List String :=
  ["file", "samples", "mean_seconds", "median_seconds", "p99_seconds", "baseline_seconds",
    "adjusted_mean_seconds"]

def number (x : Binary64) : List Char :=
  Decimal.tableStyle.render x

def optionalNumber (x : Option Binary64) : List Char :=
  (x.map number).getD []

def row (name : String) (r : LatencyReport Binary64) : List Char :=
  line [field name, Text.decimal r.samples, number r.mean, number r.median, number r.p99,
    optionalNumber r.baseline, optionalNumber r.adjustedMean]

def rows (r : MeasurementReport) : List (List Char) :=
  (r.files.map fun f => row f.name f.report) ++ r.aggregate.toList.map (row "*")

def render (r : MeasurementReport) : String :=
  match rows r with
  | [] => ""
  | rows => String.ofList (line (columns.map field) ++ rows.flatten)

end RelayMesh.Measurement.Table
