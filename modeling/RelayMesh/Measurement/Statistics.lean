import RelayMesh.Binary64.Arithmetic
import RelayMesh.Decimal.Style

namespace RelayMesh.Measurement

class Arithmetic (α : Type) where
  ofNat : Nat → α
  add : α → α → α
  sub : α → α → α
  mul : α → α → α
  div : α → α → α
  le : α → α → Bool
  clampUnit : α → α
  floor : α → Nat
  ceil : α → Nat

instance : Arithmetic Binary64 where
  ofNat := .ofNat
  add := .add
  sub := .sub
  mul := .mul
  div := .div
  le := Binary64.totalLe
  clampUnit := .clampUnit
  floor := Binary64.floorNat
  ceil := Binary64.ceilNat

variable {α : Type} [Arithmetic α]

open Arithmetic

def nanosecondsInSecond : Nat := 1000000000

def inSeconds (nanoseconds : α) : α :=
  div nanoseconds (ofNat nanosecondsInSecond)

def extendMean (state : Nat × α) (value : α) : Nat × α :=
  let count := state.1 + 1
  (count, add state.2 (div (sub value state.2) (ofNat count)))

def mean (values : List α) : α :=
  (values.foldl extendMean (0, ofNat 0)).2

def sorted (values : List α) : List α :=
  values.mergeSort le

def median? (values : List α) : Option α :=
  let ranks := sorted values
  let middle := values.length / 2
  if values.length % 2 = 1 then ranks[middle]?
  else do
    let below ← ranks[middle - 1]?
    let above ← ranks[middle]?
    return div (add below above) (ofNat 2)

/-- The percentile at `p` between zero and one, by linear interpolation between the closest
ranks. -/
def percentile? (values : List α) (p : α) : Option α := do
  let ranks := sorted values
  let place := mul (ofNat (values.length - 1)) (clampUnit p)
  let below ← ranks[floor place]?
  let above ← ranks[ceil place]?
  return add below (mul (sub place (ofNat (floor place))) (sub above below))

structure Summary (α : Type) where
  samples : Nat
  mean : α
  median : α
  p99 : α
deriving DecidableEq, Inhabited

structure LatencyReport (α : Type) where
  samples : Nat
  mean : α
  median : α
  p99 : α
  baseline : Option α
  adjustedMean : Option α
deriving DecidableEq, Inhabited

def emptyMessage : String := "No latency samples found"

def summarize? (samples : List Nat) : Option (Summary α) := do
  let values : List α := samples.map ofNat
  let p99 ← percentile? values (div (ofNat 99) (ofNat 100))
  let median ← median? values
  return ⟨samples.length, inSeconds (mean values), inSeconds median, inSeconds p99⟩

def Summary.withBaseline (s : Summary α) (baseline : Option α) : LatencyReport α :=
  ⟨s.samples, s.mean, s.median, s.p99, baseline, baseline.map (sub s.mean)⟩

open Decimal (sixPlaces)

def LatencyReport.text (r : LatencyReport Binary64) : String :=
  let middle := s!"average: {sixPlaces r.mean}s, median: {sixPlaces r.median}s"
  let statistics := s!"samples: {r.samples}, {middle}, 99th percentile: {sixPlaces r.p99}s"
  match r.baseline, r.adjustedMean with
  | some baseline, some adjusted =>
    s!"{statistics}, baseline: {sixPlaces baseline}s, relay delay: {sixPlaces adjusted}s"
  | _, _ => statistics

end RelayMesh.Measurement
