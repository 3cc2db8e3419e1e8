import Mathlib.Algebra.BigOperators.Group.Finset.Basic
import Mathlib.Algebra.BigOperators.Ring.Finset
import Mathlib.Data.List.GetD
import RelayMesh.Proofs.Measurement.TraceBaseline

namespace RelayMesh.Measurement.TraceBaseline

/-! ### Sums in words -/

section Words

variable {x y d : BitVec 128} {ds : List (BitVec 128)}

theorem saddOverflow_eq_false_iff : x.saddOverflow y = false ↔
    -2 ^ 127 ≤ x.toInt + y.toInt ∧ x.toInt + y.toInt < 2 ^ 127 := by
  simp only [BitVec.saddOverflow, Bool.or_eq_false_iff, decide_eq_false_iff_not]
  omega

theorem ssubOverflow_eq_false_iff : x.ssubOverflow y = false ↔
    -2 ^ 127 ≤ x.toInt - y.toInt ∧ x.toInt - y.toInt < 2 ^ 127 := by
  simp only [BitVec.ssubOverflow, Bool.or_eq_false_iff, decide_eq_false_iff_not]
  omega

/-- A sum of differences is exact as long as each of them is of 64 bits. -/
structure Summed (ds : List (BitVec 128)) : Prop where
  exact : (total ds).toInt = (ds.map BitVec.toInt).sum
  bounded : -(ds.length * 2 ^ 64 : ℤ) ≤ (total ds).toInt ∧ (total ds).toInt ≤ ds.length * 2 ^ 64

theorem total_append_singleton (ds : List (BitVec 128)) (d : BitVec 128) :
    total (ds ++ [d]) = total ds + d :=
  List.foldl_append

theorem Summed.next (summed : Summed ds) (room : ds.length < 2 ^ 62)
    (small : -2 ^ 64 < d.toInt ∧ d.toInt < 2 ^ 64) :
    (total ds).saddOverflow d = false ∧ Summed (ds ++ [d]) := by
  obtain ⟨exact, low, high⟩ := summed
  have fits : (total ds).saddOverflow d = false :=
    saddOverflow_eq_false_iff.mpr (by omega)
  have sum : (total (ds ++ [d])).toInt = (total ds).toInt + d.toInt := by
    rw [total_append_singleton, BitVec.toInt_add_of_not_saddOverflow (by simp [fits])]
  refine ⟨fits, ?_, ?_⟩
  · rw [sum, exact, List.map_append, List.sum_append]
    simp
  · rw [sum, List.length_append, List.length_singleton]
    push_cast
    omega

theorem summed_of_small (short : ds.length ≤ 2 ^ 62)
    (small : ∀ d ∈ ds, -2 ^ 64 < d.toInt ∧ d.toInt < 2 ^ 64) : Summed ds := by
  induction ds using List.reverseRecOn with
  | nil => exact ⟨rfl, by decide⟩
  | append_singleton ds d ih =>
    rw [List.length_append, List.length_singleton] at short
    obtain ⟨small, own⟩ := List.forall_mem_append.mp small
    exact ((ih (by omega) small).next (by omega) (own d (List.mem_singleton_self d))).2

end Words

/-! ### Differences -/

section Differences

variable {before after : ℕ} {first second : List ℕ}

theorem toInt_ofNat_of_lt {n : ℕ} (word : n < 2 ^ 64) : (BitVec.ofNat 128 n).toInt = n := by
  rw [BitVec.toInt_ofNat']
  exact Int.bmod_eq_of_le (by omega) (by omega)

theorem delta_spec (left : before < 2 ^ 64) (right : after < 2 ^ 64) :
    (BitVec.ofNat 128 after).ssubOverflow (BitVec.ofNat 128 before) = false ∧
      (delta before after).toInt = (after : ℤ) - before := by
  have fits : (BitVec.ofNat 128 after).ssubOverflow (BitVec.ofNat 128 before) = false := by
    rw [ssubOverflow_eq_false_iff, toInt_ofNat_of_lt left, toInt_ofNat_of_lt right]
    omega
  refine ⟨fits, ?_⟩
  rw [delta, BitVec.toInt_sub_of_not_ssubOverflow (by simp [fits]), toInt_ofNat_of_lt left,
    toInt_ofNat_of_lt right]

theorem deltas_eq_map (first second : List ℕ) :
    deltas first second = (List.zip first second).map fun pair => delta pair.1 pair.2 := by
  rw [List.map_zip_eq_zipWith]
  rfl

def pairedSum (first second : List ℕ) : ℤ :=
  ∑ i ∈ Finset.range (min first.length second.length), ((second.getD i 0 : ℤ) - first.getD i 0)

theorem sum_map_deltas (left : ∀ n ∈ first, n < 2 ^ 64) (right : ∀ n ∈ second, n < 2 ^ 64) :
    ((deltas first second).map BitVec.toInt).sum = pairedSum first second := by
  induction first generalizing second with
  | nil => simp [deltas, pairedSum]
  | cons m first ih =>
    cases second with
    | nil => simp [deltas, pairedSum]
    | cons n second =>
      obtain ⟨m_word, left⟩ := List.forall_mem_cons.mp left
      obtain ⟨n_word, right⟩ := List.forall_mem_cons.mp right
      have rest := ih left right
      rw [deltas] at rest ⊢
      rw [List.zipWith_cons_cons, List.map_cons, List.sum_cons, rest, (delta_spec m_word n_word).2,
        pairedSum, pairedSum, List.length_cons, List.length_cons, Nat.succ_min_succ,
        Finset.sum_range_succ']
      exact add_comm _ _

theorem deltas_congr {others more : List ℕ} {k : ℕ} (count : min first.length second.length = k)
    (same_count : min others.length more.length = k) (left : others.take k = first.take k)
    (right : more.take k = second.take k) : deltas others more = deltas first second := by
  rw [deltas, deltas, List.zipWith_eq_zipWith_take_min, same_count, left, right, ← count,
    ← List.zipWith_eq_zipWith_take_min]

theorem pairedSum_comm (first second : List ℕ) : pairedSum second first = -pairedSum first second := by
  rw [pairedSum, pairedSum, min_comm, ← Finset.sum_neg_distrib]
  exact Finset.sum_congr rfl fun i _ => (neg_sub _ _).symm

theorem pairedSum_self (first : List ℕ) : pairedSum first first = 0 :=
  Finset.sum_eq_zero fun _ _ => sub_self _

theorem pairedSum_map_add (c : ℕ) (first second : List ℕ) :
    pairedSum (first.map (· + c)) (second.map (· + c)) = pairedSum first second := by
  rw [pairedSum, pairedSum, List.length_map, List.length_map]
  refine Finset.sum_congr rfl fun i inside => ?_
  obtain ⟨left, right⟩ := lt_min_iff.mp (Finset.mem_range.mp inside)
  rw [List.getD_eq_getElem _ _ (by simpa using right), List.getD_eq_getElem _ _ (by simpa using left),
    List.getD_eq_getElem _ _ right, List.getD_eq_getElem _ _ left, List.getElem_map,
    List.getElem_map, Nat.cast_add, Nat.cast_add, add_sub_add_right_eq_sub]

end Differences

/-! ### Probe points -/

section Points

variable {records : List TraceRecord} {first second : String}

def pairCount (records : List TraceRecord) (first second : String) : ℕ :=
  min (records.countP (·.element == first)) (records.countP (·.element == second))

def deltaSum (records : List TraceRecord) (first second : String) : ℤ :=
  ∑ i ∈ Finset.range (pairCount records first second),
    (((timestampsOf records second).getD i 0 : ℤ) - (timestampsOf records first).getD i 0)

def later (c : ℕ) (records : List TraceRecord) : List TraceRecord :=
  records.map fun r => { r with timestamp := r.timestamp + c }

theorem length_timestampsOf (records : List TraceRecord) (element : String) :
    (timestampsOf records element).length = records.countP (·.element == element) := by
  rw [timestampsOf, List.length_map, List.countP_eq_length_filter]

theorem timestampsOf_lt {bound : ℕ} (words : ∀ r ∈ records, r.timestamp < bound)
    (element : String) : ∀ n ∈ timestampsOf records element, n < bound := by
  intro n member
  obtain ⟨r, listed, rfl⟩ := List.mem_map.mp member
  exact words r (List.mem_of_mem_filter listed)

theorem timestampsOf_later (c : ℕ) (records : List TraceRecord) (element : String) :
    timestampsOf (later c records) element = (timestampsOf records element).map (· + c) := by
  rw [timestampsOf, timestampsOf, later, List.filter_map, List.map_map, List.map_map]
  rfl

theorem deltaSum_eq_pairedSum (records : List TraceRecord) (first second : String) :
    deltaSum records first second =
      pairedSum (timestampsOf records first) (timestampsOf records second) := by
  rw [deltaSum, pairedSum, length_timestampsOf, length_timestampsOf, pairCount]

theorem deltaSum_later (c : ℕ) (records : List TraceRecord) (first second : String) :
    deltaSum (later c records) first second = deltaSum records first second := by
  rw [deltaSum_eq_pairedSum, deltaSum_eq_pairedSum, timestampsOf_later, timestampsOf_later,
    pairedSum_map_add]

theorem pairCount_later (c : ℕ) (records : List TraceRecord) (first second : String) :
    pairCount (later c records) first second = pairCount records first second := by
  simp only [pairCount, ← length_timestampsOf, timestampsOf_later, List.length_map]

theorem length_deltas (records : List TraceRecord) (first second : String) :
    (deltas (timestampsOf records first) (timestampsOf records second)).length =
      pairCount records first second := by
  rw [deltas, List.length_zipWith, length_timestampsOf, length_timestampsOf, pairCount]

theorem compute_probeDelta (paired : 0 < pairCount records first second) :
    compute (.probeDelta first second) records =
      let ds := deltas (timestampsOf records first) (timestampsOf records second)
      .ok (inSeconds ((Binary64.ofInt (total ds).toInt).div (.ofNat ds.length))) := by
  have some : records ≠ [] := by
    rintro rfl
    exact Nat.lt_irrefl 0 paired
  rw [compute_of_ne_nil some, nanosecondsIn]
  split
  · rename_i none
    rw [← length_deltas, none] at paired
    contradiction
  · rfl

theorem small_deltas (words : ∀ r ∈ records, r.timestamp < 2 ^ 64) :
    ∀ d ∈ deltas (timestampsOf records first) (timestampsOf records second),
      -2 ^ 64 < d.toInt ∧ d.toInt < 2 ^ 64 := by
  intro d member
  rw [deltas_eq_map] at member
  obtain ⟨⟨m, n⟩, zipped, rfl⟩ := List.mem_map.mp member
  obtain ⟨left, right⟩ := List.of_mem_zip zipped
  have m_word := timestampsOf_lt words first m left
  have n_word := timestampsOf_lt words second n right
  rw [(delta_spec m_word n_word).2]
  omega

theorem pairCount_le_length (records : List TraceRecord) (first second : String) :
    pairCount records first second ≤ records.length :=
  (min_le_left ..).trans List.countP_le_length

theorem saddOverflow_eq_false (short : records.length < 2 ^ 62)
    (words : ∀ r ∈ records, r.timestamp < 2 ^ 64) {front back : List (BitVec 128)} {d : BitVec 128}
    (split : deltas (timestampsOf records first) (timestampsOf records second) =
      front ++ d :: back) : (total front).saddOverflow d = false := by
  have small : ∀ e ∈ front ++ d :: back, -2 ^ 64 < e.toInt ∧ e.toInt < 2 ^ 64 :=
    split ▸ small_deltas words
  have length := congrArg List.length split
  rw [length_deltas, List.length_append, List.length_cons] at length
  have few := pairCount_le_length records first second
  obtain ⟨small, others⟩ := List.forall_mem_append.mp small
  have summed := summed_of_small (by omega) small
  exact (summed.next (by omega) (others d List.mem_cons_self)).1

/-- What the time between two elements is in words, and on what it depends. -/
structure ExactDelta (records : List TraceRecord) (first second : String) : Prop where
  value : compute (.probeDelta first second) records =
    .ok (((Binary64.ofInt (deltaSum records first second)).div
      (.ofNat (pairCount records first second))).div (.ofNat 1000000000))
  differences : ∀ pair ∈ List.zip (timestampsOf records first) (timestampsOf records second),
    (BitVec.ofNat 128 pair.2).ssubOverflow (BitVec.ofNat 128 pair.1) = false
  sum : ∀ front d back,
    deltas (timestampsOf records first) (timestampsOf records second) = front ++ d :: back →
    (total front).saddOverflow d = false
  unpaired : ∀ others, pairCount others first second = pairCount records first second →
    (∀ element, element = first ∨ element = second →
      (timestampsOf others element).take (pairCount records first second) =
        (timestampsOf records element).take (pairCount records first second)) →
    compute (.probeDelta first second) others = compute (.probeDelta first second) records
  shifted : ∀ c, (∀ r ∈ records, r.timestamp + c < 2 ^ 64) →
    deltaSum (later c records) first second = deltaSum records first second ∧
      compute (.probeDelta first second) (later c records) =
        compute (.probeDelta first second) records
  exchanged : deltaSum records second first = -deltaSum records first second
  same : deltaSum records first first = 0

theorem toInt_total (short : records.length < 2 ^ 62)
    (words : ∀ r ∈ records, r.timestamp < 2 ^ 64) :
    (total (deltas (timestampsOf records first) (timestampsOf records second))).toInt =
      deltaSum records first second := by
  have few : pairCount records first second ≤ 2 ^ 62 :=
    (pairCount_le_length records first second).trans short.le
  have summed := summed_of_small (by rwa [length_deltas]) (small_deltas words)
  rw [summed.exact, sum_map_deltas (timestampsOf_lt words first) (timestampsOf_lt words second),
    deltaSum_eq_pairedSum]

theorem compute_eq (short : records.length < 2 ^ 62)
    (words : ∀ r ∈ records, r.timestamp < 2 ^ 64)
    (paired : 0 < pairCount records first second) :
    compute (.probeDelta first second) records =
      .ok (((Binary64.ofInt (deltaSum records first second)).div
        (.ofNat (pairCount records first second))).div (.ofNat 1000000000)) := by
  rw [compute_probeDelta paired]
  dsimp only
  rw [toInt_total short words, length_deltas]
  rfl

/-- Running times in words of 64 bits, in a trace that any memory can hold, give the exact sum of the
differences of all pairs, rounded only when it becomes a binary64 number and is divided. -/
theorem delta_exact (short : records.length < 2 ^ 62)
    (words : ∀ r ∈ records, r.timestamp < 2 ^ 64)
    (paired : 0 < pairCount records first second) : ExactDelta records first second := by
  constructor
  case value => exact compute_eq short words paired
  case differences =>
    rintro ⟨m, n⟩ zipped
    obtain ⟨left, right⟩ := List.of_mem_zip zipped
    exact (delta_spec (timestampsOf_lt words first m left)
      (timestampsOf_lt words second n right)).1
  case sum => exact fun front d back => saddOverflow_eq_false short words
  case unpaired =>
    intro others count same
    have left := same first (.inl rfl)
    have right := same second (.inr rfl)
    rw [compute_probeDelta (count ▸ paired), compute_probeDelta paired,
      deltas_congr ?_ ?_ left right]
    · rw [length_timestampsOf, length_timestampsOf, pairCount]
    · rw [length_timestampsOf, length_timestampsOf, ← count, pairCount]
  case shifted =>
    intro c inside
    have words_later : ∀ r ∈ later c records, r.timestamp < 2 ^ 64 := by
      intro r member
      obtain ⟨s, listed, rfl⟩ := List.mem_map.mp member
      exact inside s listed
    have short_later : (later c records).length < 2 ^ 62 := by
      rwa [later, List.length_map]
    have paired_later : 0 < pairCount (later c records) first second := by
      rwa [pairCount_later]
    refine ⟨deltaSum_later c records first second, ?_⟩
    rw [compute_eq short_later words_later paired_later, compute_eq short words paired,
      deltaSum_later, pairCount_later]
  case exchanged =>
    rw [deltaSum_eq_pairedSum, deltaSum_eq_pairedSum, pairedSum_comm]
  case same =>
    rw [deltaSum_eq_pairedSum, pairedSum_self]

def wideTrace : List TraceRecord :=
  [⟨18446744073709551615, "a", none⟩, ⟨0, "b", some 3⟩, ⟨7, "c", none⟩, ⟨2, "b", none⟩,
    ⟨5, "a", none⟩, ⟨9, "a", none⟩]

theorem wideTrace_delta_exact :
    wideTrace.length < 2 ^ 62 ∧ (∀ r ∈ wideTrace, r.timestamp < 2 ^ 64) ∧
      0 < pairCount wideTrace "a" "b" ∧ deltaSum wideTrace "a" "b" = -18446744073709551618 ∧
      ExactDelta wideTrace "a" "b" := by
  have short : wideTrace.length < 2 ^ 62 := by decide
  have words : ∀ r ∈ wideTrace, r.timestamp < 2 ^ 64 := by decide
  have paired : 0 < pairCount wideTrace "a" "b" := by decide
  exact ⟨short, words, paired, by decide, delta_exact short words paired⟩

end Points

end RelayMesh.Measurement.TraceBaseline
