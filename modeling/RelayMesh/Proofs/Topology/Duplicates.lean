import RelayMesh.Proofs.Topology.Acceptance
import RelayMesh.Proofs.Topology.Pairs

namespace RelayMesh.Topology

open Document (lookup)

/-- The first edge that connects the same relays as an earlier one connects `a` and `b`. -/
def Repeats (edges : List Edge) (a b : NodeId) : Prop :=
  a < b ∧ ∃ before e after, edges = before ++ e :: after ∧
    (before.map fun f => s(f.a, f.b)).Nodup ∧ s(e.a, e.b) = s(a, b) ∧
    s(a, b) ∈ before.map fun f => s(f.a, f.b)

/-- All that stands before the hops in a document can be read: the relays and the edges. -/
structure DeclaresEdges (fields : List (String × Document)) (names : List String)
    (edges : List Edge) : Prop where
  relays : ∃ nodes, lookup "nodes" fields = some nodes ∧ DeclaresRelays nodes names
  some_relay : names ≠ []
  distinct : names.Nodup
  links : ∃ items, HasItems fields "edges" items ∧ List.Forall₂ (DescribesEdge names) items edges
  no_loop : ∀ e ∈ edges, e.a ≠ e.b

/-- The report of the first repeated pair among the edges of a document. -/
inductive RepeatFault : Document → TopologyError → Prop where
  | edge {fields : List (String × Document)} {names : List String} {edges : List Edge}
      {a b : NodeId} {x y : String} (declared : DeclaresEdges fields names edges)
      (repeats : Repeats edges a b) (first : names[a]? = some x) (second : names[b]? = some y) :
      RepeatFault (.object fields) (.duplicateEdge x y)

theorem orderedPair_eq_iff {x y a b : NodeId} (order : a < b) :
    orderedPair x y = (a, b) ↔ s(x, y) = s(a, b) := by
  rw [← orderedPair_of_le (Nat.le_of_lt order)]
  exact pair_eq_pair_iff (e := ⟨x, y, none⟩) (f := ⟨a, b, none⟩)

theorem repeats_iff {edges : List Edge} (no_loop : ∀ e ∈ edges, e.a ≠ e.b) {a b : NodeId} :
    Repeats edges a b ↔ firstRepeated? [] (edges.map Edge.pair) = some (a, b) := by
  rw [firstRepeated?_eq_some]
  constructor
  · rintro ⟨order, before, e, after, rfl, distinct, own, again⟩
    obtain ⟨f, earlier, same⟩ := List.mem_map.mp again
    refine ⟨before.map Edge.pair, after.map Edge.pair, ?_, nodup_pairs_iff.mpr distinct, by simp,
      .inl (List.mem_map.mpr ⟨f, earlier, (orderedPair_eq_iff order).mpr same⟩)⟩
    rw [List.map_append, List.map_cons, Edge.pair, (orderedPair_eq_iff order).mpr own]
  · rintro ⟨left, right, split, distinct, _, again⟩
    obtain ⟨before, behind, rfl, rfl, tail⟩ := List.map_eq_append_iff.mp split
    obtain ⟨e, after, rfl, own, rfl⟩ := List.map_eq_cons_iff.mp tail
    have apart := no_loop e (by simp)
    have order : a < b := by
      simp only [Edge.pair, orderedPair] at own
      grind
    obtain ⟨f, earlier, same⟩ := List.mem_map.mp (again.resolve_right List.not_mem_nil)
    refine ⟨order, before, e, after, rfl, nodup_pairs_iff.mp distinct,
      (orderedPair_eq_iff order).mp own, ?_⟩
    exact List.mem_map.mpr ⟨f, earlier, (orderedPair_eq_iff order).mp same⟩

theorem exists_repeats_iff {edges : List Edge} (no_loop : ∀ e ∈ edges, e.a ≠ e.b) :
    (∃ a b, Repeats edges a b) ↔ ¬ (edges.map fun e => s(e.a, e.b)).Nodup := by
  simp only [repeats_iff no_loop, ← nodup_pairs_iff]
  cases found : firstRepeated? [] (edges.map Edge.pair) with
  | none => simp [(firstRepeated?_eq_none.mp found).1]
  | some pair =>
    refine iff_of_true ⟨pair.1, pair.2, rfl⟩ fun distinct => ?_
    rw [firstRepeated?_eq_none.mpr ⟨distinct, by simp⟩] at found
    contradiction

theorem Repeats.mem {edges : List Edge} {a b : NodeId} (repeats : Repeats edges a b) :
    ∃ e ∈ edges, s(e.a, e.b) = s(a, b) := by
  obtain ⟨_, before, e, after, rfl, _, own, _⟩ := repeats
  exact ⟨e, by simp, own⟩

section Declared

variable {fields : List (String × Document)} {names : List String} {edges : List Edge}

theorem declaresEdges_iff : DeclaresEdges fields names edges ↔
    (∃ nodes, lookup "nodes" fields = some nodes ∧ relayNames nodes = .ok names) ∧ names ≠ [] ∧
      edgeList .firstWins names fields = .ok edges := by
  simp only [edgeList_ok, reduceCtorEq, false_imp_iff, and_true]
  constructor
  · rintro ⟨⟨nodes, found, declared⟩, some_relay, distinct, links, no_loop⟩
    have read := (relayNames_ok.mpr ⟨declared, some_relay, distinct⟩).1
    exact ⟨⟨nodes, found, read⟩, some_relay, links, no_loop⟩
  · rintro ⟨⟨nodes, found, read⟩, some_relay, links, no_loop⟩
    obtain ⟨declared, _, distinct⟩ := relayNames_ok.mp ⟨read, some_relay⟩
    exact ⟨⟨nodes, found, declared⟩, some_relay, distinct, links, no_loop⟩

theorem Describes.declaresEdges {policy : DuplicateEdges} {first last : List (String × NodeId)}
    (described : Describes policy fields names edges first last) :
    DeclaresEdges fields names edges :=
  ⟨described.relays, described.some_relay, described.distinct, described.links, described.no_loop⟩

theorem DeclaresEdges.lt (declared : DeclaresEdges fields names edges) {a b : NodeId}
    (repeats : Repeats edges a b) : a < names.length ∧ b < names.length := by
  obtain ⟨e, member, same⟩ := repeats.mem
  obtain ⟨items, _, each⟩ := declared.links
  obtain ⟨item, _, described⟩ := Checked.exists_of_forall₂ each member
  have inside := described.lt
  rcases Sym2.eq_iff.mp same with ⟨rfl, rfl⟩ | ⟨rfl, rfl⟩
  · exact inside
  · exact inside.symm

theorem edgeList_reject (names : List String) (fields : List (String × Document)) :
    edgeList .reject names fields = (do
      let edges ← edgeList .firstWins names fields
      checkDuplicates .reject names edges
      return edges) := by
  simp only [edgeList, checkDuplicates, bind_assoc, pure_bind]
  rfl

theorem load_of_repeats (declared : DeclaresEdges fields names edges) {a b : NodeId}
    (repeats : Repeats edges a b) : load .reject (.object fields) =
      .error (.duplicateEdge (names[a]?.getD "") (names[b]?.getD "")) := by
  obtain ⟨⟨nodes, found, read⟩, some_relay, listed⟩ := declaresEdges_iff.mp declared
  have again := (repeats_iff declared.no_loop).mp repeats
  have failed : edgeList .reject names fields =
      .error (.duplicateEdge (names[a]?.getD "") (names[b]?.getD "")) := by
    rw [edgeList_reject, listed]
    simp only [bind, Except.bind, checkDuplicates, again]
  simp only [load, found, read, if_neg some_relay, failed, bind, Except.bind]

theorem edgeList_of_nodup
    (distinct : ∀ edges, edgeList .firstWins names fields = .ok edges →
      (edges.map fun e => s(e.a, e.b)).Nodup) :
    edgeList .reject names fields = edgeList .firstWins names fields := by
  rw [edgeList_reject]
  cases listed : edgeList .firstWins names fields with
  | error e => rfl
  | ok edges =>
    have passed : checkDuplicates .reject names edges = .ok () :=
      checkDuplicates_ok.mpr fun _ => distinct edges listed
    simp only [bind, Except.bind, passed]
    rfl

end Declared

theorem load_of_unrepeated {doc : Document} (unrepeated : ¬ ∃ e, RepeatFault doc e) :
    load .reject doc = load .firstWins doc := by
  cases doc with
  | object fields =>
    cases found : lookup "nodes" fields with
    | none => simp only [load, found, bind, Except.bind]
    | some nodes =>
      cases read : relayNames nodes with
      | error e => simp only [load, found, read, bind, Except.bind]
      | ok names =>
        by_cases empty : names = []
        · simp only [load, found, read, if_pos empty, bind, Except.bind]
        · have lists : edgeList .reject names fields = edgeList .firstWins names fields := by
            apply edgeList_of_nodup
            intro edges listed
            have declared := declaresEdges_iff.mpr ⟨⟨nodes, found, read⟩, empty, listed⟩
            by_contra twice
            obtain ⟨a, b, repeats⟩ := (exists_repeats_iff declared.no_loop).mpr twice
            obtain ⟨insideA, insideB⟩ := declared.lt repeats
            exact unrepeated ⟨_, .edge declared repeats (List.getElem?_eq_getElem insideA)
              (List.getElem?_eq_getElem insideB)⟩
          simp only [load, found, read, if_neg empty, lists, bind, Except.bind]
  | _ => rfl

theorem load_of_repeatFault {doc : Document} {e : TopologyError} (fault : RepeatFault doc e) :
    load .reject doc = .error e := by
  cases fault with
  | edge declared repeats first second =>
    rw [load_of_repeats declared repeats, first, second, Option.getD_some, Option.getD_some]

theorem name_assemble {names : List String} {edges : List Edge} {first last : List (String × NodeId)}
    {id : NodeId} (inside : id < names.length) :
    names[id]? = some ((assemble names edges first last).name id) := by
  have place := congrArg (·[id]?) (names_assemble names edges first last)
  simp only [List.getElem?_map, List.getElem?_append_left inside] at place
  rw [name, place, List.getElem?_eq_getElem inside, Option.getD_some]

/-- Where several edges of a pair are refused, a document without such edges is read as where the
first of them wins. Of all others the first repeated pair is reported, even if something is wrong
with the hops; faults in front of this check stay the same. -/
theorem reject_refines_firstWins (doc : Document) :
    (∀ t, load .firstWins doc = .ok t →
      ((t.edges.map fun e => s(e.a, e.b)).Nodup → load .reject doc = .ok t) ∧
      (¬ (t.edges.map fun e => s(e.a, e.b)).Nodup → ∃ a b, Repeats t.edges a b ∧
        load .reject doc = .error (.duplicateEdge (t.name a) (t.name b)))) ∧
    ∀ e, load .firstWins doc = .error e → load .reject doc = .error e ∨
      ∃ fault, RepeatFault doc fault ∧ load .reject doc = .error fault := by
  constructor
  · intro t loaded
    obtain ⟨fields, names, edges, first, last, rfl, described, rfl⟩ := load_ok_iff.mp loaded
    constructor
    · intro distinct
      exact load_ok_iff.mpr ⟨fields, names, edges, first, last, rfl,
        { described with single := fun _ => distinct }, rfl⟩
    · intro twice
      obtain ⟨a, b, repeats⟩ := (exists_repeats_iff described.no_loop).mpr twice
      have declared := described.declaresEdges
      obtain ⟨insideA, insideB⟩ := declared.lt repeats
      exact ⟨a, b, repeats, load_of_repeatFault
        (.edge declared repeats (name_assemble insideA) (name_assemble insideB))⟩
  · intro e failed
    by_cases repeated : ∃ fault, RepeatFault doc fault
    · obtain ⟨fault, report⟩ := repeated
      exact .inr ⟨fault, report, load_of_repeatFault report⟩
    · rw [load_of_unrepeated repeated]
      exact .inl failed

def twinDocument : Document :=
  let edge : Int × Int → Document := fun (x, y) => .object [("node1", .int x), ("node2", .int y)]
  .object [("nodes", .list [.text "a", .text "b", .text "c"]),
    ("edges", .list ([(3, 1), (2, 1), (2, 3), (1, 2), (1, 3)].map edge))]

def twin : Topology where
  nodes := [⟨0, "a", .relay⟩, ⟨1, "b", .relay⟩, ⟨2, "c", .relay⟩, ⟨3, "api", .control⟩]
  numRelays := 3
  edges := [⟨2, 0, none⟩, ⟨1, 0, none⟩, ⟨1, 2, none⟩, ⟨0, 1, none⟩, ⟨0, 2, none⟩]
  attachments := []
  control := 3

theorem twin_refused : load .firstWins twinDocument = .ok twin ∧
    load .reject twinDocument = .error (.duplicateEdge "a" "b") ∧
    ∃ a b, Repeats twin.edges a b ∧
      load .reject twinDocument = .error (.duplicateEdge (twin.name a) (twin.name b)) :=
  have loaded : load .firstWins twinDocument = .ok twin := rfl
  ⟨loaded, rfl, ((reject_refines_firstWins twinDocument).1 twin loaded).2 (by decide)⟩

end RelayMesh.Topology
