import RelayMesh.Measurement.Reading
import RelayMesh.Proofs.Measurement.Marker
import RelayMesh.Proofs.Text.Lines

namespace RelayMesh.Measurement

open Text (Denotes isDecimalDigit)

theorem ignoresReturn_sampleOfLine? : Text.IgnoresReturn sampleOfLine? where
  empty := by decide
  blind := markedNumber?_append_singleton (by decide) (by decide)

/-- Lines with the samples that were written into them. All other lines have no digit behind a
marker; a line with a sample may go on after it in any way that does not prolong the number. -/
inductive Logged : List (List Char) → List Nat → Prop where
  | nil : Logged [] []
  | other {line : List Char} {lines : List (List Char)} {samples : List Nat}
      (unmarked : ¬ Marked "Latency: " line) (rest : Logged lines samples) :
      Logged (line :: lines) samples
  | sample {front behind : List Char} {n : Nat} {lines : List (List Char)} {samples : List Nat}
      (unmarked : ¬ Marked "Latency: " front) (small : n < 2 ^ 64)
      (stop : ∀ c ∈ behind.head?, isDecimalDigit c = false) (rest : Logged lines samples) :
      Logged ((front ++ ("Latency: ".toList ++ (Text.decimal n ++ behind))) :: lines) (n :: samples)

theorem unbordered_latency : Text.Unbordered "Latency: ".toList := by decide

theorem samplesOfLines_of_logged {lines : List (List Char)} {samples : List Nat}
    (logged : Logged lines samples) : samplesOfLines lines = samples := by
  induction logged with
  | nil => rfl
  | other unmarked _ ih =>
    exact (List.filterMap_cons_none (markedNumber?_of_not_marked unmarked)).trans ih
  | sample unmarked small stop _ ih =>
    have read := markedNumber?_written unbordered_latency ⟨'L', _, rfl, rfl⟩ unmarked small stop
    exact (List.filterMap_cons_some read).trans (congrArg (_ :: ·) ih)

/-- A line has a sample exactly if the digits behind its first marked number are a number of 64
bits, and the samples of a log are those that were written into it, in their order. -/
theorem samples_exact :
    (∀ line n, sampleOfLine? line = some n ↔ ∃ front digits behind,
      FirstNumber "Latency: " line front digits behind ∧ Denotes digits n ∧ n < 2 ^ 64) ∧
    ∀ lines samples, Logged lines samples → samplesOfLines lines = samples :=
  ⟨fun _ _ => markedNumber?_eq_some_iff, fun _ _ => samplesOfLines_of_logged⟩

/-- A marker without a digit in front of the sample and text right behind it, and a line without a
sample. -/
theorem samples_of_noise :
    Logged ["Latency: Latency: 5ms".toList, "Latency: none".toList] [5] ∧
      samplesOfLines ["Latency: Latency: 5ms".toList, "Latency: none".toList] = [5] := by
  have written : "Latency: Latency: 5ms".toList =
      "Latency: ".toList ++ ("Latency: ".toList ++ (Text.decimal 5 ++ "ms".toList)) := by decide
  have stop : ∀ c ∈ "ms".toList.head?, isDecimalDigit c = false := by
    intro c first
    cases first
    decide
  have logged : Logged ["Latency: Latency: 5ms".toList, "Latency: none".toList] [5] := by
    rw [written]
    exact .sample (by decide) (by decide) stop (.other (by decide) .nil)
  exact ⟨logged, samples_exact.2 _ _ logged⟩

end RelayMesh.Measurement
