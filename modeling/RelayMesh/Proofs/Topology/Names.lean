import Mathlib.Data.List.Nodup
import Mathlib.Data.List.Perm.Subperm
import RelayMesh.Topology.Loader

namespace RelayMesh

def candidateSuffix (k : Nat) : List Char :=
  if k = 0 then [] else '-' :: Nat.toDigits 10 (k + 1)

theorem toList_nameCandidate (name : String) (k : Nat) :
    (nameCandidate name k).toList = name.toList ++ candidateSuffix k := by
  unfold nameCandidate candidateSuffix
  split
  · rw [List.append_nil]
  · simp [String.toList_append, toString, Nat.repr]

theorem candidateSuffix_injective : Function.Injective candidateSuffix := by
  intro j k same
  unfold candidateSuffix at same
  split at same <;> split at same
  · omega
  · contradiction
  · contradiction
  · have digits := congrArg (fun cs => Nat.ofDigitChars 10 cs 0) (List.cons.inj same).2
    simp only [Nat.ofDigitChars_ten_toDigits] at digits
    omega

theorem nameCandidate_injective (name : String) : Function.Injective (nameCandidate name) := by
  intro j k same
  have texts := congrArg String.toList same
  rw [toList_nameCandidate, toList_nameCandidate] at texts
  exact candidateSuffix_injective (List.append_cancel_left texts)

theorem nameCandidate_ne_empty {name : String} (named : name ≠ "") (k : Nat) :
    nameCandidate name k ≠ "" := by
  intro empty
  have text := congrArg String.toList empty
  rw [toList_nameCandidate, String.toList_empty, List.append_eq_nil_iff] at text
  exact named (String.toList_eq_nil_iff.mp text.1)

theorem exists_free_candidate (name : String) (taken : List String) :
    ∃ k ≤ taken.length, nameCandidate name k ∉ taken := by
  by_contra none_free
  push Not at none_free
  have candidates : ((List.range (taken.length + 1)).map (nameCandidate name)).Nodup :=
    List.nodup_range.map (nameCandidate_injective name)
  have all_taken : (List.range (taken.length + 1)).map (nameCandidate name) ⊆ taken := by
    intro candidate listed
    obtain ⟨k, below, rfl⟩ := List.mem_map.mp listed
    exact none_free k (Nat.le_of_lt_succ (List.mem_range.mp below))
  have crowded := (List.subperm_of_subset candidates all_taken).length_le
  rw [List.length_map, List.length_range] at crowded
  omega

theorem freeNameFrom_spec {name : String} {taken : List String} (fuel start : Nat)
    (reached : ∃ k, start ≤ k ∧ k ≤ start + fuel ∧ nameCandidate name k ∉ taken) :
    ∃ k, freeNameFrom name taken fuel start = nameCandidate name k ∧
      nameCandidate name k ∉ taken ∧
      ∀ j, start ≤ j → j < k → nameCandidate name j ∈ taken := by
  induction fuel generalizing start with
  | zero =>
    obtain ⟨k, after, before, free⟩ := reached
    have here : k = start := by omega
    subst here
    exact ⟨k, rfl, free, fun j above below => absurd above (Nat.not_le_of_lt below)⟩
  | succ fuel ih =>
    by_cases hit : nameCandidate name start ∈ taken
    · obtain ⟨k, after, before, free⟩ := reached
      have later : k ≠ start := fun here => free (here ▸ hit)
      obtain ⟨k, found, free, skipped⟩ := ih (start + 1) ⟨k, by omega, by omega, free⟩
      refine ⟨k, ?_, free, fun j above below => ?_⟩
      · rw [freeNameFrom, if_pos (List.contains_iff_mem.mpr hit), found]
      · rcases Nat.eq_or_lt_of_le above with rfl | above
        · exact hit
        · exact skipped j above below
    · refine ⟨start, ?_, hit, fun j above below => absurd above (Nat.not_le_of_lt below)⟩
      rw [freeNameFrom, if_neg (mt List.contains_iff_mem.mp hit)]

theorem freeName_spec (name : String) (taken : List String) :
    ∃ k, freeName name taken = nameCandidate name k ∧ nameCandidate name k ∉ taken ∧
      ∀ j < k, nameCandidate name j ∈ taken := by
  obtain ⟨k, within, free⟩ := exists_free_candidate name taken
  obtain ⟨k, found, free, skipped⟩ := freeNameFrom_spec taken.length 0
    ⟨k, Nat.zero_le k, by omega, free⟩
  exact ⟨k, found, free, fun j below => skipped j (Nat.zero_le j) below⟩

theorem freeName_not_mem (name : String) (taken : List String) : freeName name taken ∉ taken := by
  obtain ⟨k, found, free, _⟩ := freeName_spec name taken
  rwa [found]

theorem freeName_ne_empty {name : String} (named : name ≠ "") (taken : List String) :
    freeName name taken ≠ "" := by
  obtain ⟨k, found, _⟩ := freeName_spec name taken
  rw [found]
  exact nameCandidate_ne_empty named k

theorem length_freeNames (taken wanted : List String) :
    (freeNames taken wanted).length = wanted.length := by
  induction wanted generalizing taken with
  | nil => rfl
  | cons name rest ih => rw [freeNames, List.length_cons, List.length_cons, ih]

theorem freeNames_ne_empty {taken wanted : List String} (named : ∀ name ∈ wanted, name ≠ "") :
    ∀ name ∈ freeNames taken wanted, name ≠ "" := by
  induction wanted generalizing taken with
  | nil => exact fun name member => absurd member List.not_mem_nil
  | cons first rest ih =>
    intro name member
    rcases List.mem_cons.mp member with rfl | member
    · exact freeName_ne_empty (named first List.mem_cons_self) taken
    · exact ih (fun name listed => named name (List.mem_cons_of_mem first listed)) name member

theorem nodup_freeNames {taken wanted : List String} (distinct : taken.Nodup) :
    (taken ++ freeNames taken wanted).Nodup := by
  induction wanted generalizing taken with
  | nil => rwa [freeNames, List.append_nil]
  | cons name rest ih =>
    have extended : (freeName name taken :: taken).Nodup :=
      List.nodup_cons.mpr ⟨freeName_not_mem name taken, distinct⟩
    rw [freeNames]
    exact List.perm_middle.nodup_iff.mpr (ih extended)

end RelayMesh
