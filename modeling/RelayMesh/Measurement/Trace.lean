import RelayMesh.Measurement.Reading
import RelayMesh.Measurement.Statistics
import RelayMesh.Text.Basic

namespace RelayMesh.Measurement

structure TraceRecord where
  timestamp : Nat
  element : String
  time : Option Nat
deriving DecidableEq, Inhabited

def isElementChar (c : Char) : Bool :=
  c != ',' && c != ';' && !Text.isBlank c

/-- The name of the element of a line: the leftmost that is not empty. -/
def element? (line : List Char) : Option String :=
  (Text.behindMarker? "element=(string)".toList (run? isElementChar) line).map String.ofList

/-- The record of a line. A line without a running time or an element has none. -/
def recordOfLine? (line : List Char) : Option TraceRecord := do
  let timestamp ← timestamp? line
  let element ← element? line
  return ⟨timestamp, element, markedNumber? "time=(guint64)" line⟩

def recordsOfLines (lines : List (List Char)) : List TraceRecord :=
  lines.filterMap recordOfLine?

def recordsOfText (text : List Char) : List TraceRecord :=
  recordsOfLines (Text.lines text)

inductive TraceBaseline where
  | stageSum (stages : List String) (probe : String)
  /-- The mean time between two elements. The records of both are paired in their order. -/
  | probeDelta (first second : String)
deriving DecidableEq

def pipelineStages : List String :=
  ["before01", "before02", "before03", "before2", "middle", "after1", "after2", "after3", "after4"]

/-- The processing time of the stamping element belongs to the measurement, not to its baseline. -/
def TraceBaseline.standard : TraceBaseline :=
  .stageSum pipelineStages "middle"

instance : Inhabited TraceBaseline := ⟨.standard⟩

inductive TraceError where
  | noData
  | missingStage (stage : String)
  | noProbePairs (first second : String)
deriving DecidableEq

def TraceError.message : TraceError → String
  | .noData => "The trace contains no records"
  | .missingStage stage => s!"The trace contains no records of stage `{stage}`"
  | .noProbePairs first second =>
    s!"The trace contains no pair of records for the probe points `{first}` and `{second}`"

namespace TraceBaseline

def timesOf (records : List TraceRecord) (element : String) : List Nat :=
  (records.filter (·.element == element)).filterMap (·.time)

def timestampsOf (records : List TraceRecord) (element : String) : List Nat :=
  (records.filter (·.element == element)).map (·.timestamp)

def average (values : List Nat) : Binary64 :=
  (Binary64.sum (values.map .ofNat)).div (.ofNat values.length)

def stageTime (records : List TraceRecord) (stage : String) : Except TraceError Binary64 :=
  match timesOf records stage with
  | [] => .error (.missingStage stage)
  | times => .ok (average times)

def delta (before after : Nat) : BitVec 128 :=
  BitVec.ofNat 128 after - BitVec.ofNat 128 before

def deltas (first second : List Nat) : List (BitVec 128) :=
  List.zipWith delta first second

/-- The sum of differences from left to right, in words of 128 bits. -/
def total (ds : List (BitVec 128)) : BitVec 128 :=
  ds.foldl (· + ·) 0

def nanosecondsIn (records : List TraceRecord) : TraceBaseline → Except TraceError Binary64
  | .stageSum stages probe => do
    let times ← (stages.filter (· != probe)).mapM (stageTime records)
    return .sum times
  | .probeDelta first second =>
    match deltas (timestampsOf records first) (timestampsOf records second) with
    | [] => .error (.noProbePairs first second)
    | ds => .ok ((Binary64.ofInt (total ds).toInt).div (.ofNat ds.length))

def compute (baseline : TraceBaseline) (records : List TraceRecord) : Except TraceError Binary64 :=
  match records with
  | [] => .error .noData
  | records => (nanosecondsIn records baseline).map inSeconds

end TraceBaseline

end RelayMesh.Measurement
