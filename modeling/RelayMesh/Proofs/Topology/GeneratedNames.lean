import Mathlib.Data.Finset.Card
import Mathlib.Data.Finset.Insert
import Mathlib.Data.Finset.Lattice.Basic
import RelayMesh.Proofs.Topology.Kinds

/-! The search for free names. It has no bound of its own: it goes on as long as the names it comes
to are taken, which ends because they all differ and only finitely many names are taken. Each name
that is given is taken for those that follow, so the generated nodes of a topology have names that
no relay has and that are different from each other. -/

namespace RelayMesh

/-- The search for a free name from one of the candidates on: how many of them it looks at, and the
name that it ends with. -/
inductive Search (name : String) (taken : Finset String) : Nat → Nat → String → Prop where
  | free {k : Nat} (fresh : nameCandidate name k ∉ taken) :
      Search name taken k 1 (nameCandidate name k)
  | taken {k looks : Nat} {result : String} (hit : nameCandidate name k ∈ taken)
      (rest : Search name taken (k + 1) looks result) : Search name taken k (looks + 1) result

/-- The wanted name if it is free, and else the wanted name with the least number from two on with
which it is free. -/
inductive FirstFree (name : String) (taken : Finset String) : String → Prop where
  | own (fresh : name ∉ taken) : FirstFree name taken name
  | numbered {k : Nat} (hit : name ∈ taken) (number : 2 ≤ k) (fresh : s!"{name}-{k}" ∉ taken)
      (least : ∀ j, 2 ≤ j → j < k → s!"{name}-{j}" ∈ taken) :
      FirstFree name taken s!"{name}-{k}"

/-- Names that are given for the wanted ones, one after the other. What is taken grows by each given
name, and by nothing else, before the next name is looked for. -/
inductive GivenInTurn : Finset String → List String → List String → Finset String → Prop where
  | nil {taken : Finset String} : GivenInTurn taken [] [] taken
  | cons {taken after : Finset String} {name result : String} {wanted results : List String}
      (own : FirstFree name taken result)
      (rest : GivenInTurn (insert result taken) wanted results after) :
      GivenInTurn taken (name :: wanted) (result :: results) after

section Searched

variable {name : String} {taken : Finset String}

theorem nameCandidate_zero (name : String) : nameCandidate name 0 = name :=
  if_pos rfl

theorem nameCandidate_succ (name : String) (k : Nat) :
    nameCandidate name (k + 1) = s!"{name}-{k + 2}" :=
  if_neg (Nat.succ_ne_zero k)

theorem search_of_skipped {k : Nat} (fresh : nameCandidate name k ∉ taken) (steps start : Nat)
    (reach : start + steps = k)
    (skipped : ∀ j, start ≤ j → j < k → nameCandidate name j ∈ taken) :
    Search name taken start (steps + 1) (nameCandidate name k) := by
  induction steps generalizing start with
  | zero =>
    obtain rfl : start = k := reach
    exact .free fresh
  | succ steps ih =>
    refine .taken (skipped start (Nat.le_refl start) (by omega)) (ih (start + 1) (by omega) ?_)
    exact fun j above below => skipped j (by omega) below

theorem Search.unique {start m n : Nat} {r q : String} (first : Search name taken start m r)
    (second : Search name taken start n q) : n = m ∧ q = r := by
  induction first generalizing n with
  | free fresh =>
    cases second with
    | free _ => exact ⟨rfl, rfl⟩
    | taken hit _ => exact absurd hit fresh
  | taken hit _ ih =>
    cases second with
    | free fresh => exact absurd hit fresh
    | taken _ rest =>
      obtain ⟨same, result⟩ := ih rest
      exact ⟨congrArg (· + 1) same, result⟩

theorem le_card_of_taken {k : Nat} (hits : ∀ j < k, nameCandidate name j ∈ taken) :
    k ≤ taken.card := by
  have candidates : ((Finset.range k).image (nameCandidate name)).card = k := by
    rw [Finset.card_image_of_injective _ (nameCandidate_injective name), Finset.card_range]
  rw [← candidates]
  refine Finset.card_le_card fun candidate member => ?_
  obtain ⟨j, below, rfl⟩ := Finset.mem_image.mp member
  exact hits j (Finset.mem_range.mp below)

theorem firstFree_nameCandidate {k : Nat} (fresh : nameCandidate name k ∉ taken)
    (hits : ∀ j < k, nameCandidate name j ∈ taken) : FirstFree name taken (nameCandidate name k) := by
  cases k with
  | zero =>
    rw [nameCandidate_zero] at fresh ⊢
    exact .own fresh
  | succ k =>
    have own := hits 0 (Nat.zero_lt_succ k)
    rw [nameCandidate_zero] at own
    rw [nameCandidate_succ] at fresh ⊢
    refine .numbered own (Nat.le_add_left 2 k) fresh fun j number below => ?_
    obtain ⟨i, rfl⟩ := Nat.exists_eq_add_of_le' number
    rw [← nameCandidate_succ]
    exact hits (i + 1) (by omega)

theorem FirstFree.not_mem {result : String} (first : FirstFree name taken result) :
    result ∉ taken := by
  cases first with
  | own fresh => exact fresh
  | numbered _ _ fresh _ => exact fresh

end Searched

/-- The search comes to its end, with the free name, after one look more than names are taken at
the latest. -/
theorem freeName_search (name : String) (taken : List String) :
    FirstFree name taken.toFinset (freeName name taken) ∧
      ∃ looks ≤ taken.toFinset.card + 1, Search name taken.toFinset 0 looks (freeName name taken) := by
  obtain ⟨k, found, fresh, skipped⟩ := freeName_spec name taken
  simp only [← List.mem_toFinset] at fresh skipped
  rw [found]
  refine ⟨firstFree_nameCandidate fresh skipped, k + 1, ?_, ?_⟩
  · exact Nat.succ_le_succ (le_card_of_taken skipped)
  · exact search_of_skipped fresh k 0 (Nat.zero_add k) fun j _ below => skipped j below

theorem freeNames_givenInTurn (taken wanted : List String) :
    GivenInTurn taken.toFinset wanted (freeNames taken wanted)
      (taken.toFinset ∪ (freeNames taken wanted).toFinset) := by
  induction wanted generalizing taken with
  | nil =>
    rw [freeNames, List.toFinset_nil, Finset.union_empty]
    exact .nil
  | cons name rest ih =>
    have grown : (freeName name taken :: taken).toFinset ∪
        (freeNames (freeName name taken :: taken) rest).toFinset =
          taken.toFinset ∪ (freeNames taken (name :: rest)).toFinset := by
      rw [freeNames, List.toFinset_cons, List.toFinset_cons, Finset.insert_union,
        Finset.union_insert]
    have later := ih (freeName name taken :: taken)
    rw [grown, List.toFinset_cons] at later
    exact .cons (freeName_search name taken).1 later

theorem GivenInTurn.distinct {taken after : Finset String} {wanted results : List String}
    (given : GivenInTurn taken wanted results after) :
    results.Nodup ∧ ∀ result ∈ results, result ∉ taken := by
  induction given with
  | nil => exact ⟨List.nodup_nil, nofun⟩
  | cons own _ ih =>
    obtain ⟨nodup, fresh⟩ := ih
    simp only [Finset.mem_insert, not_or] at fresh
    refine ⟨List.nodup_cons.mpr ⟨fun again => (fresh _ again).1 rfl, nodup⟩, ?_⟩
    exact List.forall_mem_cons.mpr ⟨own.not_mem, fun result member => (fresh result member).2⟩

namespace Topology

/-- The nodes that no document declares: publishers, subscribers and the control node. -/
def generated (t : Topology) : List Node :=
  t.nodes.filter (·.kind != .relay)

/-- No two generated nodes have the same name, and none has the name of a relay. -/
structure NamedApart (t : Topology) : Prop where
  distinct : (t.generated.map (·.name)).Nodup
  apart : ∀ node ∈ t.generated, ∀ relay ∈ t.relays, node.name ≠ relay.name

section Assembled

variable (names : List String) (edges : List Edge) (first last : List (String × NodeId))

theorem generatedNames_assemble :
    (assemble names edges first last).generated.map (·.name) =
      freeNames names (wantedNames first last) := by
  have entries (xs : List (String × NodeKind)) :
      (numberedNodes xs).map (fun node => (node.name, node.kind)) = xs := by
    rw [numberedNodes, List.map_map]
    exact List.zipIdx_map_fst 0 xs
  have kept : ((assemble names edges first last).generated).map (·.name) =
      (((assemble names edges first last).nodes.map fun node => (node.name, node.kind)).filter
        (·.2 != .relay)).map (·.1) := by
    rw [List.filter_map, List.map_map]
    rfl
  have relays : (names.map ((·, NodeKind.relay))).filter (·.2 != .relay) = [] := by
    simp [List.filter_eq_nil_iff]
  have others : ∀ entry ∈ (freeNames names (wantedNames first last)).zip
      (clientKinds first last ++ [.control]), (entry.2 != NodeKind.relay) = true := by
    intro entry member
    have kind := (List.of_mem_zip member).2
    rw [clientKinds_eq] at kind
    simp only [List.mem_append, List.mem_replicate, List.mem_singleton] at kind
    rcases kind with (⟨_, same⟩ | ⟨_, same⟩) | same <;> rw [same] <;> rfl
  rw [kept, nodes_assemble, entries, List.filter_append, relays, List.nil_append,
    List.filter_eq_self.mpr others,
    List.map_fst_zip (Nat.le_of_eq (length_generated names first last))]

theorem namedApart_assemble : (assemble names edges first last).NamedApart := by
  obtain ⟨nodup, fresh⟩ := (freeNames_givenInTurn names (wantedNames first last)).distinct
  rw [← generatedNames_assemble names edges] at nodup fresh
  refine ⟨nodup, fun node member relay declared same => ?_⟩
  have name := List.mem_map_of_mem (f := (·.name)) declared
  rw [relayNames_assemble, ← List.mem_toFinset, ← same] at name
  exact fresh node.name (List.mem_map_of_mem member) name

end Assembled

/-- The search for a free name ends, whatever names are taken, and gives the first free one. The
generated nodes of a topology take their names in turn, from those of the relays on, and so are told
apart from each other and from all relays, even if relays were to share names. -/
theorem generated_in_turn :
    (∀ (name : String) (taken : List String),
      FirstFree name taken.toFinset (freeName name taken) ∧
        ∃ looks ≤ taken.toFinset.card + 1, ∀ n result, Search name taken.toFinset 0 n result ↔
          n = looks ∧ result = freeName name taken) ∧
    (∀ (names : List String) (edges : List Edge) (first last : List (String × NodeId)),
      let given := (assemble names edges first last).generated.map (·.name)
      GivenInTurn names.toFinset (wantedNames first last) given
          (names.toFinset ∪ given.toFinset) ∧
        (assemble names edges first last).NamedApart) ∧
    ∀ (policy : DuplicateEdges) (doc : Document) (t : Topology),
      load policy doc = .ok t → t.NamedApart := by
  refine ⟨fun name taken => ?_, fun names edges first last => ?_, fun policy doc t loaded => ?_⟩
  · obtain ⟨given, looks, few, search⟩ := freeName_search name taken
    refine ⟨given, looks, few, fun n result => ⟨search.unique, ?_⟩⟩
    rintro ⟨rfl, rfl⟩
    exact search
  · refine ⟨?_, namedApart_assemble names edges first last⟩
    rw [generatedNames_assemble]
    exact freeNames_givenInTurn names _
  · obtain ⟨_, _, names, edges, first, last, _, _, _, _, _, _, _, _, rfl⟩ := load_spec loaded
    exact namedApart_assemble names edges first last

theorem clashing_in_turn :
    load .reject clashingDocument = .ok clashing ∧
      clashing.generated.map (·.name) = ["pub1-3", "sub1", "api-2"] ∧ clashing.NamedApart :=
  have loaded : load .reject clashingDocument = .ok clashing := by decide +kernel
  ⟨loaded, rfl, generated_in_turn.2.2 _ _ _ loaded⟩

end Topology

end RelayMesh
