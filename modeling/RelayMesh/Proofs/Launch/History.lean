import Mathlib.Data.List.Nodup
import RelayMesh.Launch.Startup

namespace RelayMesh.Startup

def Place.Before (p q : Place) : Prop :=
  p.stage < q.stage ∨ (p.stage = q.stage ∧ p.index < q.index)

def arranged (stages : List LaunchStage) : List (List (Place × ProcessSpec)) :=
  stages.zipIdx.map fun (stage, i) => placed i stage.processes

def order (stages : List LaunchStage) : List (Place × ProcessSpec) :=
  (arranged stages).flatten

theorem Place.Before.irrefl (p : Place) : ¬ p.Before p := by
  rintro (before | ⟨_, before⟩) <;> exact Nat.lt_irrefl _ before

theorem Place.Before.asymm {p q : Place} (before : p.Before q) : ¬ q.Before p := by
  simp only [Place.Before] at before ⊢
  omega

theorem mem_placed {k : Nat} {processes : List ProcessSpec} {p : Place × ProcessSpec} :
    p ∈ placed k processes ↔ p.1.stage = k ∧ processes[p.1.index]? = some p.2 := by
  obtain ⟨⟨stage, index⟩, spec⟩ := p
  simp only [placed, List.mem_map, Prod.mk.injEq, Place.mk.injEq, Prod.exists,
    List.mk_mem_zipIdx_iff_getElem?]
  constructor
  · rintro ⟨_, _, entry, ⟨rfl, rfl⟩, rfl⟩
    exact ⟨rfl, entry⟩
  · rintro ⟨rfl, entry⟩
    exact ⟨spec, index, entry, ⟨rfl, rfl⟩, rfl⟩

theorem getElem?_arranged {stages : List LaunchStage} {k : Nat} :
    (arranged stages)[k]? = (stages[k]?).map fun stage => placed k stage.processes := by
  simp only [arranged, List.getElem?_map, List.getElem?_zipIdx, Option.map_map, Nat.zero_add]
  rfl

theorem mem_order {stages : List LaunchStage} {p : Place × ProcessSpec} :
    p ∈ order stages ↔ ∃ group, (arranged stages)[p.1.stage]? = some group ∧ p ∈ group := by
  rw [order, List.mem_flatten]
  constructor
  · rintro ⟨group, member, inside⟩
    obtain ⟨k, found⟩ := List.mem_iff_getElem?.mp member
    have placement := found
    rw [getElem?_arranged, Option.map_eq_some_iff] at placement
    obtain ⟨stage, _, rfl⟩ := placement
    exact ⟨_, (mem_placed.mp inside).1 ▸ found, inside⟩
  · rintro ⟨group, found, inside⟩
    exact ⟨group, List.mem_of_getElem? found, inside⟩

section Split

variable {stages : List LaunchStage} {done rest : List (List (Place × ProcessSpec))}
  {group : List (Place × ProcessSpec)} (split : arranged stages = done ++ group :: rest)
include split

theorem stage_of_mem {p : Place × ProcessSpec} (member : p ∈ group) :
    p.1.stage = done.length := by
  have found : (arranged stages)[done.length]? = some group := by
    rw [split, List.getElem?_append_right (Nat.le_refl _), Nat.sub_self, List.getElem?_cons_zero]
  rw [getElem?_arranged, Option.map_eq_some_iff] at found
  obtain ⟨stage, _, rfl⟩ := found
  exact (mem_placed.mp member).1

theorem mem_done {q : Place × ProcessSpec} (member : q ∈ order stages)
    (before : q.1.stage < done.length) : q ∈ done.flatten := by
  obtain ⟨own, found, inside⟩ := mem_order.mp member
  rw [split, List.getElem?_append_left before] at found
  exact List.mem_flatten_of_mem (List.mem_of_getElem? found) inside

theorem mem_group {q : Place × ProcessSpec} (member : q ∈ order stages)
    (same : q.1.stage = done.length) : q ∈ group := by
  obtain ⟨own, found, inside⟩ := mem_order.mp member
  rw [split, same, List.getElem?_append_right (Nat.le_refl _), Nat.sub_self,
    List.getElem?_cons_zero] at found
  exact Option.some.inj found ▸ inside

end Split

theorem zipIdx_ascending {α : Type} (xs : List α) :
    xs.zipIdx.Pairwise fun x y => x.2 < y.2 := by
  have ascending := List.pairwise_lt_range' (s := 0) (n := xs.length)
  rw [← List.zipIdx_map_snd, List.pairwise_map] at ascending
  exact ascending

theorem order_ascending (stages : List LaunchStage) :
    (order stages).Pairwise fun p q => p.1.Before q.1 := by
  rw [order, List.pairwise_flatten]
  constructor
  · intro processes member
    obtain ⟨⟨stage, k⟩, _, rfl⟩ := List.mem_map.mp member
    simp only [placed, List.pairwise_map]
    exact (zipIdx_ascending stage.processes).imp fun ascending => .inr ⟨rfl, ascending⟩
  · rw [arranged, List.pairwise_map]
    refine (zipIdx_ascending stages).imp fun {x y} ascending p first q second => .inl ?_
    rw [(mem_placed.mp first).1, (mem_placed.mp second).1]
    exact ascending

theorem nodup_places (stages : List LaunchStage) : ((order stages).map (·.1)).Nodup :=
  List.pairwise_map.mpr <| (order_ascending stages).imp fun {p q} before (same : p.1 = q.1) =>
    Place.Before.irrefl q.1 (same ▸ before)

theorem mem_of_before {stages : List LaunchStage} {front back : List (Place × ProcessSpec)}
    {p q : Place × ProcessSpec} (split : order stages = front ++ p :: back)
    (member : q ∈ order stages) (before : q.1.Before p.1) : q ∈ front := by
  have ascending := order_ascending stages
  rw [split, List.pairwise_append, List.pairwise_cons] at ascending
  rw [split, List.mem_append, List.mem_cons] at member
  rcases member with front | rfl | back
  · exact front
  · exact absurd before (Place.Before.irrefl q.1)
  · exact absurd before (Place.Before.asymm (ascending.2.1.1 q back))

def attempted : List Event → List (Place × ProcessSpec)
  | [] => []
  | .spawn place spec _ _ _ :: past => attempted past ++ [(place, spec)]
  | .poll _ _ _ _ _ :: past => attempted past

def polls (place : Place) : List Event → Nat
  | [] => 0
  | .spawn _ _ _ _ _ :: past => polls place past
  | .poll polled _ _ _ _ :: past => polls place past + if polled = place then 1 else 0

def lastAnswer? (place : Place) : List Event → Option (Except LaunchError Bool)
  | [] => none
  | .spawn _ _ _ _ _ :: past => lastAnswer? place past
  | .poll polled _ _ _ result :: past =>
    if polled = place then some result else lastAnswer? place past

def firstPoll? (place : Place) : List Event → Option Nat
  | [] => none
  | .spawn _ _ _ _ _ :: past => firstPoll? place past
  | .poll polled _ began _ _ :: past =>
    if polled = place then some ((firstPoll? place past).getD began) else firstPoll? place past

def Spawned (events : List Event) (p : Place × ProcessSpec) : Prop :=
  ∃ began ended, .spawn p.1 p.2 began ended (.ok ()) ∈ events

def Ready (events : List Event) (p : Place × ProcessSpec) : Prop :=
  Spawned events p ∧ (p.2.probe ≠ .started → lastAnswer? p.1 events = some (.ok true))

def FoundReady (events : List Event) (place : Place) : Prop :=
  ∃ spec began ended, .poll place spec began ended (.ok true) ∈ events

/-- What the last event says must end the startup. The time of a process counts from its first
poll. -/
def fault? (settings : LaunchSettings) : List Event → Option LaunchError
  | .spawn _ _ _ _ (.error e) :: _ => some e
  | .poll _ _ _ _ (.error e) :: _ => some e
  | .poll place spec began ended (.ok false) :: past =>
    if (firstPoll? place past).getD began + settings.readyTimeout.toNat ≤ ended then
      some (.notReady spec.host spec.probe settings.readyTimeout)
    else none
  | _ => none

/-- What an event needs of the past. A spawn takes the next process, once all earlier stages are
ready. A poll needs its own stage spawned and all before it ready, and comes to no process that was
found ready or need not wait. -/
def Permitted (stages : List LaunchStage) (past : List Event) : Event → Prop
  | .spawn place spec _ _ _ =>
    attempted past ++ [(place, spec)] <+: order stages ∧
      ∀ q ∈ order stages, q.1.stage < place.stage → Ready past q
  | .poll place spec _ _ _ =>
    (place, spec) ∈ order stages ∧ spec.probe ≠ .started ∧ ¬ FoundReady past place ∧
      (∀ q ∈ order stages, q.1.stage = place.stage → Spawned past q) ∧
      ∀ q ∈ order stages, q.1.Before place → Ready past q

inductive Lawful (settings : LaunchSettings) (stages : List LaunchStage) : List Event → Prop where
  | nil : Lawful settings stages []
  | cons {event : Event} {past : List Event} (before : Lawful settings stages past)
      (faultless : fault? settings past = none) (permitted : Permitted stages past event) :
      Lawful settings stages (event :: past)

section Histories

variable {settings : LaunchSettings} {stages : List LaunchStage}
  {past later : List Event} {p : Place × ProcessSpec} {place : Place}

theorem Lawful.of_append (lawful : Lawful settings stages (later ++ past)) :
    Lawful settings stages past := by
  induction later with
  | nil => exact lawful
  | cons event later ih =>
    cases lawful with
    | cons before _ _ => exact ih before

theorem Lawful.permitted {event : Event}
    (lawful : Lawful settings stages (later ++ event :: past)) : Permitted stages past event := by
  cases lawful.of_append with
  | cons _ _ permitted => exact permitted

theorem Lawful.attempted_prefix (lawful : Lawful settings stages past) :
    attempted past <+: order stages := by
  induction lawful with
  | nil => exact List.nil_prefix
  | @cons event past _ _ permitted ih =>
    cases event with
    | spawn => exact permitted.1
    | poll => exact ih

theorem Lawful.eq_nil_of_fault {e : LaunchError} (lawful : Lawful settings stages (later ++ past))
    (fault : fault? settings past = some e) : later = [] := by
  rcases List.eq_nil_or_concat later with none | ⟨rest, event, rfl⟩
  · exact none
  · rw [List.concat_eq_append, List.append_assoc] at lawful
    cases lawful.of_append with
    | cons _ faultless _ => exact absurd (faultless.symm.trans fault) nofun

theorem Spawned.cons {event : Event} (spawned : Spawned past p) : Spawned (event :: past) p := by
  obtain ⟨began, ended, member⟩ := spawned
  exact ⟨began, ended, List.mem_cons_of_mem event member⟩

theorem Ready.spawn {spec : ProcessSpec} {began ended : Nat} {result : Except LaunchError Unit}
    (ready : Ready past p) : Ready (.spawn place spec began ended result :: past) p :=
  ⟨ready.1.cons, ready.2⟩

theorem Ready.poll {spec : ProcessSpec} {began ended : Nat} {result : Except LaunchError Bool}
    (ready : Ready past p) (other : place ≠ p.1) :
    Ready (.poll place spec began ended result :: past) p := by
  refine ⟨ready.1.cons, fun waits => ?_⟩
  rw [lastAnswer?, if_neg other]
  exact ready.2 waits

theorem Ready.found {began ended : Nat} (spawned : Spawned past p) :
    Ready (.poll p.1 p.2 began ended (.ok true) :: past) p := by
  refine ⟨spawned.cons, fun _ => ?_⟩
  rw [lastAnswer?, if_pos rfl]

theorem firstPoll?_of_unpolled (unpolled : polls place past = 0) :
    firstPoll? place past = none := by
  induction past with
  | nil => rfl
  | cons event past ih =>
    cases event with
    | spawn => exact ih unpolled
    | poll polled spec began ended result =>
      rw [polls] at unpolled
      have other : polled ≠ place := fun same => by simp [same] at unpolled
      rw [firstPoll?, if_neg other]
      exact ih (by omega)

theorem not_foundReady_of_unpolled (unpolled : polls place past = 0) : ¬ FoundReady past place := by
  rintro ⟨spec, began, ended, member⟩
  induction past with
  | nil => cases member
  | cons event past ih =>
    rcases List.mem_cons.mp member with rfl | member
    · simp [polls] at unpolled
    · refine ih ?_ member
      cases event with
      | spawn => exact unpolled
      | poll => exact (Nat.add_eq_zero_iff.mp unpolled).1

end Histories

end RelayMesh.Startup
