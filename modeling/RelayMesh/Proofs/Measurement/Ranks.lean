import RelayMesh.Proofs.Measurement.Report

/-!
Medians and percentiles depend on what the values are, not on their order: values are sorted by a
linear order, and sorting takes every arrangement of some values to the same list. So the order of
the samples and of the logs matters to the running mean alone.
-/

namespace RelayMesh

namespace Binary64

theorem ext_magnitude {x y : Binary64} (sign : x.isNegative = y.isNegative)
    (magnitude : x.magnitudeBits = y.magnitudeBits) : x = y := by
  rw [← ofMagnitude_magnitudeBits x, sign, magnitude, ofMagnitude_magnitudeBits]

theorem totalKey_injective {x y : Binary64} (same : x.totalKey = y.totalKey) : x = y := by
  unfold totalKey at same
  split at same <;> split at same <;> rename_i left right
  · exact ext_magnitude (left.trans right.symm) (by omega)
  · omega
  · omega
  · exact ext_magnitude ((Bool.eq_false_of_not_eq_true left).trans
      (Bool.eq_false_of_not_eq_true right).symm) (by omega)

end Binary64

namespace Measurement

open Arithmetic

section Sorting

variable {α : Type} [Arithmetic α]

class LinearlySorted (α : Type) [Arithmetic α] : Prop where
  trans : ∀ x y z : α, le x y = true → le y z = true → le x z = true
  total : ∀ x y : α, (le x y || le y x) = true
  antisymm : ∀ x y : α, le x y = true → le y x = true → x = y

instance : LinearlySorted Binary64 where
  trans _ _ _ first second :=
    decide_eq_true (Int.le_trans (of_decide_eq_true first) (of_decide_eq_true second))
  total x y := by
    rw [Bool.or_eq_true]
    exact (Int.le_total x.totalKey y.totalKey).imp decide_eq_true decide_eq_true
  antisymm _ _ before after :=
    Binary64.totalKey_injective
      (Int.le_antisymm (of_decide_eq_true before) (of_decide_eq_true after))

theorem sorted_perm (values : List α) : (sorted values).Perm values :=
  List.mergeSort_perm values le

variable [LinearlySorted α]

theorem pairwise_sorted (values : List α) : (sorted values).Pairwise fun x y => le x y = true :=
  List.pairwise_mergeSort LinearlySorted.trans LinearlySorted.total values

theorem eq_sorted {values ranks : List α} (perm : ranks.Perm values)
    (ascending : ranks.Pairwise fun x y => le x y = true) : ranks = sorted values :=
  (perm.trans (sorted_perm values).symm).eq_of_pairwise
    (fun x y _ _ => LinearlySorted.antisymm x y) ascending (pairwise_sorted values)

theorem sorted_eq_of_perm {values more : List α} (perm : values.Perm more) :
    sorted values = sorted more :=
  eq_sorted ((sorted_perm values).trans perm) (pairwise_sorted values)

theorem percentile?_eq_of_perm {values more : List α} (perm : values.Perm more) (p : α) :
    percentile? values p = percentile? more p := by
  rw [percentile?, percentile?, sorted_eq_of_perm perm, perm.length_eq]

theorem median?_eq_of_perm {values more : List α} (perm : values.Perm more) :
    median? values = median? more := by
  rw [median?, median?, sorted_eq_of_perm perm, perm.length_eq]

/-- What a summary says apart from the mean: the number of samples, the median and the 99th
percentile. -/
def Summary.ranks (s : Summary α) : Nat × α × α :=
  (s.samples, s.median, s.p99)

def LatencyReport.ranks (r : LatencyReport α) : Nat × α × α :=
  (r.samples, r.median, r.p99)

theorem summarize?_ranks {samples more : List Nat} (perm : samples.Perm more) :
    (summarize? samples : Option (Summary α)).map Summary.ranks =
      (summarize? more).map Summary.ranks := by
  have values : (samples.map ofNat : List α).Perm (more.map ofNat) := perm.map ofNat
  simp only [summarize?, percentile?_eq_of_perm values, median?_eq_of_perm values,
    perm.length_eq, bind, pure, Option.map_bind, Function.comp_def, Option.map_some,
    Summary.ranks]

end Sorting

/-! ### Logs in any order -/

def FileReport.ofLog? (baseline : Option Binary64) (log : Log) : Option FileReport :=
  (reportOn? baseline (samplesOfText log.2)).map (⟨log.1, ·⟩)

def SkippedFile.ofLog? (log : Log) : Option SkippedFile :=
  if HasSample log then none else some ⟨log.1, emptyMessage⟩

theorem files_collect_eq (baseline : Option Binary64) (logs : List Log) :
    (collect baseline logs).files = logs.filterMap (FileReport.ofLog? baseline) := by
  induction logs with
  | nil => rfl
  | cons log logs ih =>
    rw [collect, List.filterMap_cons, FileReport.ofLog?]
    cases reportOn? baseline (samplesOfText log.2) with
    | none => exact ih
    | some report => exact congrArg (_ :: ·) ih

theorem skipped_collect_eq (baseline : Option Binary64) (logs : List Log) :
    (collect baseline logs).skipped = logs.filterMap SkippedFile.ofLog? := by
  induction logs with
  | nil => rfl
  | cons log logs ih =>
    rw [List.filterMap_cons, SkippedFile.ofLog?]
    by_cases sample : HasSample log
    · obtain ⟨_, _, _, collected⟩ := collect_of_sample baseline sample
      rw [collected, if_pos sample]
      exact ih
    · rw [collect_of_empty sample, if_neg sample]
      exact congrArg (_ :: ·) ih

theorem reportOn?_ranks (baseline : Option Binary64) (samples : List Nat) :
    (reportOn? baseline samples).map LatencyReport.ranks =
      (summarize? samples).map Summary.ranks := by
  rw [reportOn?, Option.map_map]
  rfl

namespace MeasurementReport

/-- Two reports say the same about each log, in any order, and the same about the ranks of all
samples. -/
structure SameButOrder (r t : MeasurementReport) : Prop where
  files : r.files.Perm t.files
  skipped : r.skipped.Perm t.skipped
  aggregate : r.aggregate.map LatencyReport.ranks = t.aggregate.map LatencyReport.ranks

theorem analyze_of_perm (baseline : Option Binary64) {logs more : List Log}
    (perm : logs.Perm more) : SameButOrder (analyze baseline logs) (analyze baseline more) where
  files := by
    simp only [analyze, files_collect_eq]
    exact perm.filterMap _
  skipped := by
    simp only [analyze, skipped_collect_eq]
    exact perm.filterMap _
  aggregate := by
    rw [aggregate_analyze, aggregate_analyze, reportOn?_ranks, reportOn?_ranks]
    exact summarize?_ranks (perm.flatMap_right _)

/-- What is said about a log goes with it wherever it stands, and the ranks do not depend on the
order of the logs, of the samples or of the values, whatever bit patterns these have. -/
theorem ranks_of_perm :
    (∀ (baseline : Option Binary64) (logs : List Log),
      (analyze baseline logs).files = logs.filterMap (FileReport.ofLog? baseline) ∧
        (analyze baseline logs).skipped = logs.filterMap SkippedFile.ofLog? ∧
        ∀ more, logs.Perm more → SameButOrder (analyze baseline logs) (analyze baseline more)) ∧
    (∀ samples more : List Nat, samples.Perm more →
      (summarize? samples : Option (Summary Binary64)).map Summary.ranks =
        (summarize? more).map Summary.ranks) ∧
    ∀ values more : List Binary64, values.Perm more →
      ∀ p, percentile? values p = percentile? more p := by
  refine ⟨fun baseline logs => ⟨files_collect_eq baseline logs, skipped_collect_eq baseline logs,
    fun more => analyze_of_perm baseline⟩, fun samples more => summarize?_ranks, ?_⟩
  intro values more perm p
  exact percentile?_eq_of_perm perm p

theorem ranks_of_reversed :
    let logs : List Log := [("a", "Latency: 7".toList), ("b", []), ("a", "Latency: 5".toList)]
    let values : List Binary64 := [.zero, .nan false, .neg .zero, .infinity true, .nan true]
    logs.Perm logs.reverse ∧ SameButOrder (analyze none logs) (analyze none logs.reverse) ∧
      [7, 5, 7].Perm [7, 7, 5] ∧
      (summarize? [7, 5, 7] : Option (Summary Binary64)).map Summary.ranks =
        (summarize? [7, 7, 5]).map Summary.ranks ∧
      values.Perm values.reverse ∧ ∀ p, percentile? values p = percentile? values.reverse p := by
  intro logs values
  have samples : [7, 5, 7].Perm [7, 7, 5] := by decide
  exact ⟨(List.reverse_perm logs).symm,
    (ranks_of_perm.1 none logs).2.2 _ (List.reverse_perm logs).symm,
    samples, ranks_of_perm.2.1 _ _ samples, (List.reverse_perm values).symm,
    ranks_of_perm.2.2 _ _ (List.reverse_perm values).symm⟩

end MeasurementReport

end Measurement

end RelayMesh
