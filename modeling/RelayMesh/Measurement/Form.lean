import RelayMesh.Document.Form
import RelayMesh.Measurement.Report
import RelayMesh.Measurement.Trace

namespace RelayMesh.Measurement

open Document (record? required? optional? tagged?)
open Form (write)

instance : Form TraceRecord where
  write r := .object [("timestamp_ns", write r.timestamp), ("element", write r.element),
    ("time_ns", write r.time)]
  read? d := do
    match ← record? ["timestamp_ns", "element", "time_ns"] d with
    | [timestamp, element, time] =>
      return ⟨← required? timestamp, ← required? element, ← optional? time⟩
    | _ => none

instance : Form TraceBaseline where
  write
    | .stageSum stages probe => .object [("mode", .text "stage_sum"), ("stages", write stages),
      ("probe", write probe)]
    | .probeDelta first second => .object [("mode", .text "probe_delta"), ("from", write first),
      ("to", write second)]
  read? d := do
    match ← tagged? "mode" d with
    | ("stage_sum", rest) =>
      match ← record? ["stages", "probe"] rest with
      | [stages, probe] => return .stageSum (← required? stages) (← required? probe)
      | _ => none
    | ("probe_delta", rest) =>
      match ← record? ["from", "to"] rest with
      | [first, second] => return .probeDelta (← required? first) (← required? second)
      | _ => none
    | _ => none

instance : Form (Summary Binary64) where
  write s := .object [("samples", write s.samples), ("mean_seconds", write s.mean),
    ("median_seconds", write s.median), ("p99_seconds", write s.p99)]
  read? d := do
    match ← record? ["samples", "mean_seconds", "median_seconds", "p99_seconds"] d with
    | [samples, mean, median, p99] =>
      return ⟨← required? samples, ← required? mean, ← required? median, ← required? p99⟩
    | _ => none

instance : Form (LatencyReport Binary64) where
  write r := .object [("samples", write r.samples), ("mean_seconds", write r.mean),
    ("median_seconds", write r.median), ("p99_seconds", write r.p99),
    ("baseline_seconds", write r.baseline), ("adjusted_mean_seconds", write r.adjustedMean)]
  read? d := do
    match ← record? ["samples", "mean_seconds", "median_seconds", "p99_seconds",
      "baseline_seconds", "adjusted_mean_seconds"] d with
    | [samples, mean, median, p99, baseline, adjustedMean] =>
      return ⟨← required? samples, ← required? mean, ← required? median, ← required? p99,
        ← optional? baseline, ← optional? adjustedMean⟩
    | _ => none

instance : Form FileReport where
  write f := .object [("name", write f.name), ("report", write f.report)]
  read? d := do
    match ← record? ["name", "report"] d with
    | [name, report] => return ⟨← required? name, ← required? report⟩
    | _ => none

instance : Form SkippedFile where
  write f := .object [("name", write f.name), ("reason", write f.reason)]
  read? d := do
    match ← record? ["name", "reason"] d with
    | [name, reason] => return ⟨← required? name, ← required? reason⟩
    | _ => none

instance : Form MeasurementReport where
  write r := .object [("files", write r.files), ("skipped", write r.skipped),
    ("aggregate", write r.aggregate)]
  read? d := do
    match ← record? ["files", "skipped", "aggregate"] d with
    | [files, skipped, aggregate] =>
      return ⟨← required? files, ← required? skipped, ← optional? aggregate⟩
    | _ => none

end RelayMesh.Measurement
