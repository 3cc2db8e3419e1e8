import RelayMesh.Proofs.Topology.Kinds
import RelayMesh.Proofs.Topology.Pairs

namespace RelayMesh

/-- The members of a list, each once, ordered by where they occur first. -/
structure FirstOccurrences {α : Type} [BEq α] (xs firsts : List α) : Prop where
  members : ∀ x, x ∈ firsts ↔ x ∈ xs
  ordered : firsts.Pairwise fun x y => xs.idxOf x < xs.idxOf y

section Occurrences

variable {α : Type} [BEq α] [LawfulBEq α]

theorem idxOf_lt_of_filter {keep : α → Bool} {xs : List α} {y z : α} (keptY : keep y = true)
    (keptZ : keep z = true) (before : (xs.filter keep).idxOf y < (xs.filter keep).idxOf z) :
    xs.idxOf y < xs.idxOf z := by
  induction xs with
  | nil => exact before
  | cons x xs ih =>
    simp only [List.idxOf_cons]
    by_cases kept : keep x = true
    · simp only [List.filter_cons_of_pos kept, List.idxOf_cons] at before
      cases hitY : x == y <;> cases hitZ : x == z <;>
        simp only [hitY, hitZ, cond_true, cond_false] at before ⊢ <;> omega
    · have otherY : (x == y) = false := beq_eq_false_iff_ne.mpr fun same => kept (same ▸ keptY)
      have otherZ : (x == z) = false := beq_eq_false_iff_ne.mpr fun same => kept (same ▸ keptZ)
      rw [List.filter_cons_of_neg kept] at before
      rw [otherY, otherZ]
      exact Nat.succ_lt_succ (ih before)

theorem firstOccurrences_eraseDups (xs : List α) : FirstOccurrences xs xs.eraseDups := by
  refine ⟨fun x => List.mem_eraseDups, ?_⟩
  -- On the length: behind its first member, a list goes on without the equals of this member.
  induction h : xs.length using Nat.strong_induction_on generalizing xs with
  | _ n ih =>
    cases xs with
    | nil => exact List.Pairwise.nil
    | cons x rest =>
      have shorter : (rest.filter fun y => !y == x).length < n := by
        rw [← h]
        exact Nat.lt_succ_of_le (List.length_filter_le _ rest)
      have other : ∀ y ∈ (rest.filter fun y => !y == x).eraseDups, (!y == x) = true :=
        fun y member => (List.mem_filter.mp (List.mem_eraseDups.mp member)).2
      have later : ∀ y ∈ (rest.filter fun y => !y == x).eraseDups,
          (x :: rest).idxOf y = rest.idxOf y + 1 := by
        intro y member
        have different : (x == y) = false := by
          rw [beq_eq_false_iff_ne]
          rintro rfl
          simpa using other x member
        rw [List.idxOf_cons, different, cond_false]
      rw [List.eraseDups_cons, List.pairwise_cons]
      constructor
      · intro y member
        rw [List.idxOf_cons_self, later y member]
        exact Nat.zero_lt_succ _
      · refine (ih _ shorter _ rfl).imp_of_mem fun memberY memberZ before => ?_
        rw [later _ memberY, later _ memberZ]
        exact Nat.succ_lt_succ (idxOf_lt_of_filter (other _ memberY) (other _ memberZ) before)

theorem eraseDups_append_of_subset {xs ys : List α} (known : ys ⊆ xs) :
    (xs ++ ys).eraseDups = xs.eraseDups := by
  have none : ys.removeAll xs = [] := by
    rw [List.removeAll, List.filter_eq_nil_iff]
    intro y member
    simpa using known member
  rw [List.eraseDups_append, none, List.eraseDups_nil, List.append_nil]

omit [LawfulBEq α] in
theorem FirstOccurrences.nodup {xs firsts : List α} (each : FirstOccurrences xs firsts) :
    firsts.Nodup :=
  each.ordered.imp fun before => by
    rintro rfl
    exact Nat.lt_irrefl _ before

end Occurrences

namespace Topology

/-- Someone takes the track from a hop with the role, or hands it over there. -/
def HasHop (t : Topology) (role : HopRole) (track : String) : Prop :=
  ∃ a ∈ t.attachments, a.role = role ∧ a.track = track

theorem hasHop_iff {t : Topology} {role : HopRole} {track : String} :
    t.HasHop role track ↔ track ∈ (t.attachmentsWith role).map (·.track) := by
  simp only [HasHop, attachmentsWith, List.mem_map, List.mem_filter, beq_iff_eq, and_assoc]

/-- The tracks are those of the first hops that the document lists, in the order of this list. All
attached tracks are among them, each once; measured are those with hops of both roles. -/
structure TracksListed (doc : Document) (t : Topology) : Prop where
  published : ∃ fields items hops, doc = .object fields ∧
    HasItems fields (hopField .firstHop) items ∧
    List.Forall₂ (DescribesHop (t.relays.map (·.name))) items hops ∧
    FirstOccurrences (hops.map (·.1)) t.tracks
  distinct : t.tracks.Nodup
  attached : ∀ track, track ∈ t.tracks ↔ ∃ a ∈ t.attachments, a.track = track
  subscribed : ∀ track, t.HasHop .lastHop track → track ∈ t.tracks
  ordered : t.measuredTracks.Sublist t.tracks
  measured : ∀ track, track ∈ t.measuredTracks ↔ t.HasHop .firstHop track ∧ t.HasHop .lastHop track

section Loaded

variable {policy : DuplicateEdges} {doc : Document} {t : Topology}
  (loaded : load policy doc = .ok t)
include loaded

theorem attachments_split_of_load :
    t.attachments = t.attachmentsWith .firstHop ++ t.attachmentsWith .lastHop := by
  obtain ⟨publishers, subscribers, _, roles⟩ := (wellFormed_of_load loaded).kinds
  obtain ⟨first, last, split, firstRoles, lastRoles⟩ := List.map_eq_append_iff.mp roles
  have front : ∀ a ∈ first, a.role = .firstHop := fun a member =>
    List.eq_of_mem_replicate (firstRoles ▸ List.mem_map_of_mem member)
  have back : ∀ a ∈ last, a.role = .lastHop := fun a member =>
    List.eq_of_mem_replicate (lastRoles ▸ List.mem_map_of_mem member)
  have whole : first.filter (·.role == .firstHop) = first ∧ last.filter (·.role == .lastHop) = last :=
    ⟨List.filter_eq_self.mpr fun a member => by rw [front a member]; rfl,
      List.filter_eq_self.mpr fun a member => by rw [back a member]; rfl⟩
  have none : first.filter (·.role == .lastHop) = [] ∧ last.filter (·.role == .firstHop) = [] :=
    ⟨List.filter_eq_nil_iff.mpr fun a member => by rw [front a member]; decide,
      List.filter_eq_nil_iff.mpr fun a member => by rw [back a member]; decide⟩
  rw [attachmentsWith, attachmentsWith, split, List.filter_append, List.filter_append, whole.1,
    whole.2, none.1, none.2, List.append_nil, List.nil_append]

theorem tracks_of_load :
    t.tracks = ((t.attachmentsWith .firstHop).map (·.track)).eraseDups := by
  have known : (t.attachmentsWith .lastHop).map (·.track) ⊆
      (t.attachmentsWith .firstHop).map (·.track) := by
    intro track member
    obtain ⟨a, listed, rfl⟩ := List.mem_map.mp member
    obtain ⟨attached, role⟩ := List.mem_filter.mp listed
    obtain ⟨b, publisher, own, same⟩ :=
      (wellFormed_of_load loaded).published a attached (beq_iff_eq.mp role)
    exact List.mem_map.mpr ⟨b, List.mem_filter.mpr ⟨publisher, beq_iff_eq.mpr own⟩, same⟩
  rw [tracks, attachments_split_of_load loaded, List.map_append, eraseDups_append_of_subset known]

theorem tracksListed_of_load : TracksListed doc t := by
  have each := firstOccurrences_eraseDups ((t.attachmentsWith .firstHop).map (·.track))
  rw [← tracks_of_load loaded] at each
  have attached : ∀ track, track ∈ t.tracks ↔ ∃ a ∈ t.attachments, a.track = track := by
    intro track
    rw [tracks, List.mem_eraseDups, List.mem_map]
  constructor
  · obtain ⟨fields, object, hops⟩ := hops_of_load loaded
    obtain ⟨items, listed, described⟩ := hops .firstHop
    refine ⟨fields, items, (t.attachmentsWith .firstHop).map fun a => (a.track, a.relay), object,
      listed, List.forall₂_map_right_iff.mpr described, ?_⟩
    rw [List.map_map]
    exact each
  · exact each.nodup
  · exact attached
  · rintro track ⟨a, member, _, same⟩
    exact (attached track).mpr ⟨a, member, same⟩
  · exact List.filter_sublist
  · intro track
    rw [measuredTracks, List.mem_filter, each.members, hasHop_iff, List.any_eq_true]
    simp only [HasHop, Bool.and_eq_true, beq_iff_eq, and_comm (a := _ = track)]

end Loaded

def channelsDocument : Document :=
  let hop : String × Int → Document := fun (track, relay) =>
    .object [("track", .text track), ("relay", .int relay)]
  .object [("nodes", .list [.text "a", .text "b"]),
    ("first_hop_relay", .list ([("v", 2), ("u", 1), ("x", 1), ("v", 1), ("w", 2)].map hop)),
    ("last_hop_relay", .list ([("w", 1), ("u", 2), ("w", 2), ("v", 1)].map hop))]

def channels : Topology :=
  (load .firstWins channelsDocument).toOption.getD default

theorem channels_listed :
    load .firstWins channelsDocument = .ok channels ∧ channels.tracks = ["v", "u", "x", "w"] ∧
      channels.measuredTracks = ["v", "u", "w"] ∧ TracksListed channelsDocument channels :=
  have loaded : load .firstWins channelsDocument = .ok channels := rfl
  ⟨loaded, rfl, rfl, tracksListed_of_load loaded⟩

end Topology

end RelayMesh
