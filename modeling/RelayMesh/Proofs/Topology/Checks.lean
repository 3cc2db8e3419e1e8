import Mathlib.Data.List.Nodup
import Mathlib.Data.Sym.Sym2
import RelayMesh.Binary64
import RelayMesh.Topology.Loader

namespace RelayMesh

theorem toList_numberedName (i : Nat) : s!"r{i + 1}".toList = 'r' :: Nat.toDigits 10 (i + 1) := by
  simp [String.toList_append, toString, Nat.repr]

namespace Topology

theorem firstRepeated?_eq_none {α : Type} [BEq α] [LawfulBEq α] {seen xs : List α} :
    firstRepeated? seen xs = none ↔ xs.Nodup ∧ ∀ x ∈ xs, x ∉ seen := by
  induction xs generalizing seen with
  | nil => simp [firstRepeated?]
  | cons x xs ih =>
    by_cases hit : x ∈ seen
    · simp [firstRepeated?, hit]
    · simp only [firstRepeated?, List.contains_iff_mem, hit, if_false, ih, List.nodup_cons,
        List.mem_cons, not_or, forall_eq_or_imp]
      grind

theorem firstRepeated?_eq_some {α : Type} [BEq α] [LawfulBEq α] {seen xs : List α} {x : α} :
    firstRepeated? seen xs = some x ↔ ∃ before after, xs = before ++ x :: after ∧ before.Nodup ∧
      (∀ y ∈ before, y ∉ seen) ∧ (x ∈ before ∨ x ∈ seen) := by
  induction xs generalizing seen with
  | nil => simp [firstRepeated?]
  | cons z rest ih =>
    by_cases hit : z ∈ seen
    · simp only [firstRepeated?, List.contains_iff_mem, hit, if_true, Option.some.injEq]
      constructor
      · rintro rfl
        exact ⟨[], rest, rfl, List.nodup_nil, by simp, .inr hit⟩
      · rintro ⟨before, after, split, _, fresh, _⟩
        cases before with
        | nil => exact (List.cons.inj split).1
        | cons y before =>
          obtain ⟨rfl, _⟩ := List.cons.inj split
          exact absurd hit (fresh z List.mem_cons_self)
    · simp only [firstRepeated?, List.contains_iff_mem, hit, if_false, ih]
      constructor
      · rintro ⟨before, after, rfl, distinct, fresh, again⟩
        exact ⟨z :: before, after, rfl, by grind, by grind, by grind⟩
      · rintro ⟨before, after, split, distinct, fresh, again⟩
        cases before with
        | nil => grind
        | cons y before =>
          obtain ⟨rfl, rfl⟩ := List.cons.inj split
          exact ⟨before, after, rfl, by grind, by grind, by grind⟩

theorem nodup_numberedNames (n : Nat) : (numberedNames n).Nodup := by
  refine List.nodup_range.map fun i j same => ?_
  have texts := congrArg String.toList same
  simp only [toList_numberedName] at texts
  have digits := congrArg (fun cs => Nat.ofDigitChars 10 cs 0) (List.cons.inj texts).2
  simp only [Nat.ofDigitChars_ten_toDigits] at digits
  omega

theorem distinctNames_ok {names distinct : List String} :
    distinctNames names = .ok distinct ↔ distinct = names ∧ names.Nodup := by
  constructor
  · intro checked
    unfold distinctNames at checked
    split at checked
    · contradiction
    · rename_i unrepeated
      cases checked
      exact ⟨rfl, (firstRepeated?_eq_none.mp unrepeated).1⟩
  · rintro ⟨rfl, unrepeated⟩
    have none_found : firstRepeated? [] distinct = none :=
      firstRepeated?_eq_none.mpr ⟨unrepeated, by simp⟩
    rw [distinctNames, none_found]

theorem isDelay_spec {x : Binary64} (valid : isDelay x = true) :
    x.isFinite = true ∧ Binary64.zero.le x = true := by
  simp only [isDelay, Bool.and_eq_true, Bool.or_eq_true, Bool.not_eq_true', Binary64.isZero,
    beq_iff_eq] at valid
  obtain ⟨finite, sign⟩ := valid
  refine ⟨finite, ?_⟩
  have number : x.isNaN = false := by
    simp only [Binary64.isFinite, decide_eq_true_eq] at finite
    simp only [Binary64.isNaN, decide_eq_false_iff_not]
    omega
  have key : 0 ≤ x.numericKey := by
    unfold Binary64.numericKey
    rcases sign with positive | zero
    · simp [positive]
    · simp [zero]
  have origin : Binary64.zero.numericKey = 0 := rfl
  simp only [Binary64.le, number, Bool.not_false, Bool.and_true, origin, decide_eq_true key]
  rfl

theorem isDelay_iff {x : Binary64} :
    isDelay x = true ↔ x.isFinite = true ∧ Binary64.zero.le x = true := by
  constructor
  · exact isDelay_spec
  · rintro ⟨finite, positive⟩
    have origin : Binary64.zero.numericKey = 0 := rfl
    simp only [Binary64.le, origin, Bool.and_eq_true, decide_eq_true_eq] at positive
    have key : 0 ≤ x.numericKey := positive.2
    unfold Binary64.numericKey at key
    simp only [isDelay, finite, Bool.true_and, Bool.or_eq_true, Bool.not_eq_true', Binary64.isZero,
      beq_iff_eq]
    by_cases sign : x.isNegative = true
    · rw [if_pos sign] at key
      exact .inr (by omega)
    · exact .inl (Bool.not_eq_true _ ▸ sign)

theorem checkLoops_ok {names : List String} {edges : List Edge} :
    checkLoops names edges = .ok () ↔ ∀ e ∈ edges, e.a ≠ e.b := by
  constructor
  · intro checked e member
    unfold checkLoops at checked
    split at checked
    · contradiction
    · rename_i none_found
      obtain ⟨i, bound, rfl⟩ := List.mem_iff_getElem.mp member
      have place : (edges[i], i) ∈ edges.zipIdx :=
        List.mk_mem_zipIdx_iff_getElem?.mpr (List.getElem?_eq_getElem bound)
      have open_edge := List.find?_eq_none.mp none_found _ place
      simpa using open_edge
  · intro open_edges
    unfold checkLoops
    split
    · rename_i e i found
      have loop : e.a = e.b := by simpa using List.find?_some found
      have place := List.fst_mem_of_mem_zipIdx (List.mem_of_find?_eq_some found)
      exact absurd loop (open_edges e place)
    · rfl

theorem pair_eq_pair_iff {e f : Edge} : e.pair = f.pair ↔ s(e.a, e.b) = s(f.a, f.b) := by
  simp only [Edge.pair, orderedPair, Sym2.eq_iff]
  grind

theorem nodup_pairs_iff {edges : List Edge} :
    (edges.map Edge.pair).Nodup ↔ (edges.map fun e => s(e.a, e.b)).Nodup := by
  simp only [List.Nodup, List.pairwise_map, ne_eq, pair_eq_pair_iff]

theorem checkDuplicates_ok {policy : DuplicateEdges} {names : List String} {edges : List Edge} :
    checkDuplicates policy names edges = .ok () ↔
      (policy = .reject → (edges.map fun e => s(e.a, e.b)).Nodup) := by
  cases policy with
  | firstWins => simp [checkDuplicates]
  | reject =>
    simp only [checkDuplicates, true_imp_iff, ← nodup_pairs_iff]
    split
    · rename_i found
      simp only [reduceCtorEq, false_iff]
      intro unrepeated
      have none_found : firstRepeated? [] (edges.map Edge.pair) = none :=
        firstRepeated?_eq_none.mpr ⟨unrepeated, by simp⟩
      rw [found] at none_found
      contradiction
    · rename_i none_found
      simp [(firstRepeated?_eq_none.mp none_found).1]

theorem checkPublished_spec {attachments : List Attachment}
    (checked : checkPublished attachments = .ok ()) {a : Attachment} (member : a ∈ attachments)
    (last : a.role = .lastHop) :
    ∃ b ∈ attachments, b.role = .firstHop ∧ b.track = a.track := by
  simp only [checkPublished] at checked
  split at checked
  · contradiction
  · rename_i none_missing
    have published := List.find?_eq_none.mp none_missing a member
    simpa [last] using published

theorem checkPublished_ok {attachments : List Attachment} :
    checkPublished attachments = .ok () ↔ ∀ a ∈ attachments, a.role = .lastHop →
      ∃ b ∈ attachments, b.role = .firstHop ∧ b.track = a.track := by
  constructor
  · exact fun checked a member last => checkPublished_spec checked member last
  · intro published
    simp only [checkPublished]
    split
    · rename_i a found
      have missing := List.find?_some found
      obtain ⟨b, listed, first, same⟩ := published a (List.mem_of_find?_eq_some found)
        (by grind)
      have present : a.track ∈
          (attachments.filter (·.role == .firstHop)).map (·.track) :=
        List.mem_map.mpr ⟨b, List.mem_filter.mpr ⟨listed, by simp [first]⟩, same⟩
      simp [present] at missing
    · rfl

end Topology

end RelayMesh
