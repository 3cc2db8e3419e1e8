import RelayMesh.Proofs.Launch.History

namespace RelayMesh.Startup

/-- Where a startup stands: what it has spawned and waited for, and where alone it has polled. -/
structure Progress (settings : LaunchSettings) (stages : List LaunchStage)
    (begun waited : List (Place × ProcessSpec)) (polled : List Place)
    (events : List Event) : Prop where
  lawful : Lawful settings stages events
  faultless : fault? settings events = none
  attempted_eq : attempted events = begun
  spawned : ∀ p ∈ begun, Spawned events p
  ready : ∀ p ∈ waited, Ready events p
  unpolled : ∀ place, place ∉ polled → polls place events = 0

abbrev Settled (settings : LaunchSettings) (stages : List LaunchStage)
    (processes : List (Place × ProcessSpec)) (events : List Event) : Prop :=
  Progress settings stages processes processes (processes.map (·.1)) events

/-- A process that may be polled: its stage has begun, and all before it was waited for. -/
structure Turn (stages : List LaunchStage) (begun waited : List (Place × ProcessSpec))
    (p : Place × ProcessSpec) : Prop where
  member : p ∈ order stages
  fresh : p.1 ∉ waited.map (·.1)
  fellows : ∀ q ∈ order stages, q.1.stage = p.1.stage → q ∈ begun
  earlier : ∀ q ∈ order stages, q.1.Before p.1 → q ∈ waited

section Steps

variable {settings : LaunchSettings} {stages : List LaunchStage}
  {begun waited : List (Place × ProcessSpec)} {polled : List Place} {past : List Event}
  {p : Place × ProcessSpec} {began ended : Nat}

theorem Turn.mem_begun (turn : Turn stages begun waited p) : p ∈ begun :=
  turn.fellows p turn.member rfl

namespace Progress

theorem nil : Progress settings stages [] [] [] [] :=
  ⟨.nil, rfl, rfl, nofun, nofun, fun _ _ => rfl⟩

theorem widen {more : List Place} (progress : Progress settings stages begun waited polled past)
    (within : polled ⊆ more) : Progress settings stages begun waited more past :=
  { progress with
    unpolled := fun place outside => progress.unpolled place (outside ∘ @within place) }

theorem lawful_spawn {result : Except LaunchError Unit}
    (progress : Progress settings stages begun waited polled past)
    (next : begun ++ [p] <+: order stages)
    (earlier : ∀ q ∈ order stages, q.1.stage < p.1.stage → q ∈ waited) :
    Lawful settings stages (.spawn p.1 p.2 began ended result :: past) := by
  refine .cons progress.lawful progress.faultless ⟨?_, fun q member before => ?_⟩
  · rw [progress.attempted_eq]
    exact next
  · exact progress.ready q (earlier q member before)

theorem spawn (progress : Progress settings stages begun waited polled past)
    (next : begun ++ [p] <+: order stages)
    (earlier : ∀ q ∈ order stages, q.1.stage < p.1.stage → q ∈ waited) :
    Progress settings stages (begun ++ [p]) waited polled
      (.spawn p.1 p.2 began ended (.ok ()) :: past) where
  lawful := progress.lawful_spawn next earlier
  faultless := rfl
  attempted_eq := by rw [attempted, progress.attempted_eq]
  spawned q member := by
    rcases List.mem_append.mp member with old | new
    · exact (progress.spawned q old).cons
    · rw [List.mem_singleton.mp new]
      exact ⟨began, ended, List.mem_cons_self⟩
  ready q member := (progress.ready q member).spawn
  unpolled := progress.unpolled

theorem lawful_poll {result : Except LaunchError Bool}
    (progress : Progress settings stages begun waited polled past)
    (turn : Turn stages begun waited p) (waits : p.2.probe ≠ .started)
    (unfound : ¬ FoundReady past p.1) :
    Lawful settings stages (.poll p.1 p.2 began ended result :: past) := by
  refine .cons progress.lawful progress.faultless ⟨turn.member, waits, unfound, ?_, ?_⟩
  · intro q member same
    exact progress.spawned q (turn.fellows q member same)
  · intro q member before
    exact progress.ready q (turn.earlier q member before)

theorem poll {result : Except LaunchError Bool}
    (progress : Progress settings stages begun waited polled past)
    (turn : Turn stages begun waited p) (waits : p.2.probe ≠ .started) (listed : p.1 ∈ polled)
    (unfound : ¬ FoundReady past p.1)
    (faultless : fault? settings (.poll p.1 p.2 began ended result :: past) = none) :
    Progress settings stages begun waited polled
      (.poll p.1 p.2 began ended result :: past) where
  lawful := progress.lawful_poll turn waits unfound
  faultless := faultless
  attempted_eq := progress.attempted_eq
  spawned q member := (progress.spawned q member).cons
  ready q member :=
    (progress.ready q member).poll fun same => turn.fresh (same ▸ List.mem_map_of_mem member)
  unpolled place outside := by
    have other : p.1 ≠ place := fun same => outside (same ▸ listed)
    rw [polls, if_neg other, progress.unpolled place outside]

theorem settle (progress : Progress settings stages begun waited polled past)
    (ready : Ready past p) : Progress settings stages begun (waited ++ [p]) polled past :=
  { progress with
    ready := fun q member => by
      rcases List.mem_append.mp member with old | new
      · exact progress.ready q old
      · rw [List.mem_singleton.mp new]
        exact ready }

end Progress

end Steps

/-- How a part of a startup ends: at its goal, with a fault, or because `patience` polls of one
process were not enough. -/
def Ends {σ : Type} (settings : LaunchSettings) (stages : List LaunchStage) (patience : Nat)
    (goal : List Event → Prop) (last : Outcome × Run σ) : Prop :=
  match last.1 with
  | .started => goal last.2.events
  | .failed e => Lawful settings stages last.2.events ∧ fault? settings last.2.events = some e
  | .running => Lawful settings stages last.2.events ∧ fault? settings last.2.events = none ∧
    ∃ p ∈ order stages, p.2.probe ≠ .started ∧ polls p.1 last.2.events = patience

section Runs

variable {σ : Type} (env : Environment σ) (patience : Nat) {settings : LaunchSettings}
  {stages : List LaunchStage} {begun waited : List (Place × ProcessSpec)} {polled : List Place}
  {p : Place × ProcessSpec} {run : Run σ}

theorem Ends.next {patience : Nat} {goal final : List Event → Prop} {last : Outcome × Run σ}
    {rest : Run σ → Outcome × Run σ} (ends : Ends settings stages patience goal last)
    (more : ∀ run : Run σ, goal run.events → Ends settings stages patience final (rest run)) :
    Ends settings stages patience final
      (match last with
        | (.started, run) => rest run
        | stopped => stopped) := by
  obtain ⟨outcome, run⟩ := last
  cases outcome with
  | started => exact more run ends
  | failed e => exact ends
  | running => exact ends

theorem spawn_eq (p : Place × ProcessSpec) (run : Run σ) :
    ∃ ended state result, run.spawn env p.1 p.2 =
      (result, ⟨ended, state, .spawn p.1 p.2 run.clock ended result :: run.events⟩) :=
  ⟨_, _, _, rfl⟩

theorem poll_eq (p : Place × ProcessSpec) (run : Run σ) :
    ∃ ended state result, run.poll env p.1 p.2 =
      (result, ⟨ended, state, .poll p.1 p.2 run.clock ended result :: run.events⟩) :=
  ⟨_, _, _, rfl⟩

theorem spawnAll_ends {processes : List (Place × ProcessSpec)}
    (ahead : begun ++ processes <+: order stages)
    (earlier : ∀ p ∈ processes, ∀ q ∈ order stages, q.1.stage < p.1.stage → q ∈ waited)
    (progress : Progress settings stages begun waited polled run.events) :
    Ends settings stages patience (Progress settings stages (begun ++ processes) waited polled)
      (spawnAll env processes run) := by
  induction processes generalizing begun run with
  | nil =>
    rw [List.append_nil]
    exact progress
  | cons p rest ih =>
    have split : begun ++ p :: rest = (begun ++ [p]) ++ rest := by simp
    have next : begun ++ [p] <+: order stages := (List.prefix_append _ rest).trans (split ▸ ahead)
    obtain ⟨ended, state, result, spawned⟩ := spawn_eq env p run
    rw [spawnAll, spawned]
    cases result with
    | error e => exact ⟨progress.lawful_spawn next (earlier p List.mem_cons_self), rfl⟩
    | ok =>
      rw [split]
      exact ih (split ▸ ahead) (fun q member => earlier q (List.mem_cons_of_mem p member))
        (progress.spawn next (earlier p List.mem_cons_self))

/-- The polls of one process. The first of them began when its wait did, which fixes the deadline
for all of them. -/
theorem pollUntil_ends {deadline more : Nat} (turn : Turn stages begun waited p)
    (waits : p.2.probe ≠ .started) (listed : p.1 ∈ polled)
    (progress : Progress settings stages begun waited polled run.events)
    (unfound : ¬ FoundReady run.events p.1)
    (due : (firstPoll? p.1 run.events).getD run.clock + settings.readyTimeout.toNat = deadline)
    (counted : polls p.1 run.events + more = patience) :
    Ends settings stages patience (Progress settings stages begun (waited ++ [p]) polled)
      (pollUntil settings env p.1 p.2 deadline more run) := by
  induction more generalizing run with
  | zero => exact ⟨progress.lawful, progress.faultless, p, turn.member, waits, counted⟩
  | succ more ih =>
    obtain ⟨ended, state, result, answered⟩ := poll_eq env p run
    rw [pollUntil, answered]
    rcases result with e | ready
    · exact ⟨progress.lawful_poll turn waits unfound, rfl⟩
    cases ready with
    | true =>
      refine Progress.settle (progress.poll turn waits listed unfound rfl) ?_
      exact .found (progress.spawned p turn.mem_begun)
    | false =>
      simp only
      by_cases late : deadline ≤ ended
      · rw [if_pos late]
        exact ⟨progress.lawful_poll turn waits unfound, if_pos (due ▸ late)⟩
      · rw [if_neg late]
        refine ih (progress.poll turn waits listed unfound (if_neg (due ▸ late))) ?_ ?_ ?_
        · rintro ⟨spec, began, ended, member⟩
          rcases List.mem_cons.mp member with same | old
          · cases same
          · exact unfound ⟨spec, began, ended, old⟩
        · simpa only [Run.sleep, firstPoll?, if_true, Option.getD_some] using due
        · simp only [Run.sleep, polls, if_true]
          omega

theorem waitReady_ends (turn : Turn stages begun waited p) (listed : p.1 ∈ polled)
    (unpolled : polls p.1 run.events = 0)
    (progress : Progress settings stages begun waited polled run.events) :
    Ends settings stages patience (Progress settings stages begun (waited ++ [p]) polled)
      (waitReady settings env patience p.1 p.2 run) := by
  rw [waitReady]
  by_cases immediate : p.2.probe = .started
  · rw [if_pos immediate]
    exact progress.settle ⟨progress.spawned p turn.mem_begun, absurd immediate⟩
  · rw [if_neg immediate]
    refine pollUntil_ends env patience turn immediate listed progress
      (not_foundReady_of_unpolled unpolled) ?_ ?_
    · rw [firstPoll?_of_unpolled unpolled, Option.getD_none]
    · omega

theorem waitAll_ends {processes rest : List (Place × ProcessSpec)}
    (split : order stages = waited ++ (processes ++ rest))
    (fellows : ∀ p ∈ processes, ∀ q ∈ order stages, q.1.stage = p.1.stage → q ∈ begun)
    (progress : Progress settings stages begun waited (waited.map (·.1)) run.events) :
    Ends settings stages patience
      (Progress settings stages begun (waited ++ processes) ((waited ++ processes).map (·.1)))
      (waitAll settings env patience processes run) := by
  induction processes generalizing waited run with
  | nil =>
    rw [List.append_nil]
    exact progress
  | cons p more ih =>
    have regrouped : waited ++ p :: more = (waited ++ [p]) ++ more := by simp
    have distinct := nodup_places stages
    rw [split, List.map_append, List.cons_append, List.map_cons, List.nodup_middle,
      List.nodup_cons, List.mem_append, not_or] at distinct
    have turn : Turn stages begun waited p :=
      { member := by simp [split]
        fresh := distinct.1.1
        fellows := fellows p List.mem_cons_self
        earlier := fun q => mem_of_before split }
    have listed : p.1 ∈ (waited ++ [p]).map (·.1) := by simp
    have waitedFor := waitReady_ends env patience turn listed
      (progress.unpolled p.1 turn.fresh) (progress.widen (by simp))
    rw [waitAll, regrouped]
    refine waitedFor.next fun run reached => ?_
    exact ih (by simp [split]) (fun q member => fellows q (List.mem_cons_of_mem p member)) reached

theorem startStage_ends {done rest : List (List (Place × ProcessSpec))}
    {group : List (Place × ProcessSpec)} (split : arranged stages = done ++ group :: rest)
    (settled : Settled settings stages done.flatten run.events) :
    Ends settings stages patience (Settled settings stages (done ++ [group]).flatten)
      (startStage settings env patience group run) := by
  have whole : order stages = done.flatten ++ (group ++ rest.flatten) := by simp [order, split]
  have joined : (done ++ [group]).flatten = done.flatten ++ group := by simp
  have ahead : done.flatten ++ group <+: order stages := by
    rw [whole, ← List.append_assoc]
    exact List.prefix_append _ _
  have numbered : ∀ p ∈ group, p.1.stage = done.length := fun p => stage_of_mem split
  have spawned := spawnAll_ends env patience ahead
    (fun p member q inside before => mem_done split inside (numbered p member ▸ before)) settled
  rw [startStage, joined]
  refine spawned.next fun run begun => ?_
  refine waitAll_ends env patience whole (fun p member q inside same => ?_) begun
  exact List.mem_append_right _ (mem_group split inside (same.trans (numbered p member)))

theorem startStages_ends {done rest : List (List (Place × ProcessSpec))}
    (split : arranged stages = done ++ rest)
    (settled : Settled settings stages done.flatten run.events) :
    Ends settings stages patience (Settled settings stages (order stages))
      (startStages settings env patience rest run) := by
  induction rest generalizing done run with
  | nil =>
    have whole : order stages = done.flatten := by simp [order, split]
    rw [whole]
    exact settled
  | cons group rest ih =>
    rw [startStages]
    refine (startStage_ends env patience split settled).next fun run reached => ?_
    exact ih (by simp [split]) reached

theorem start_ends (settings : LaunchSettings) (stages : List LaunchStage) (state : σ) :
    Ends settings stages patience (Settled settings stages (order stages))
      (start settings env patience stages state) :=
  startStages_ends env patience (List.nil_append _).symm .nil

end Runs

/-- The order in which a startup goes through its stages, told by its outcome and its events, the
last event first. -/
structure Orderly (settings : LaunchSettings) (stages : List LaunchStage) (patience : Nat)
    (outcome : Outcome) (events : List Event) : Prop where
  spawned_in_order : attempted events <+: order stages
  spawned_once : ((attempted events).map (·.1)).Nodup
  spawn_waits : ∀ later past place spec began ended result,
    events = later ++ .spawn place spec began ended result :: past →
      ∀ q ∈ order stages, q.1.stage < place.stage → Ready past q
  poll_waits : ∀ later past place spec began ended result,
    events = later ++ .poll place spec began ended result :: past →
      (place, spec) ∈ order stages ∧ spec.probe ≠ .started ∧ ¬ FoundReady past place ∧
        (∀ q ∈ order stages, q.1.stage = place.stage → Spawned past q) ∧
        ∀ q ∈ order stages, q.1.Before place → Ready past q
  fault_ends : ∀ later past e, events = later ++ past → fault? settings past = some e →
    later = [] ∧ outcome = .failed e
  failed : ∀ e, outcome = .failed e → fault? settings events = some e
  started : outcome = .started → attempted events = order stages ∧
    ∀ p ∈ order stages, Ready events p
  running : outcome = .running →
    ∃ p ∈ order stages, p.2.probe ≠ .started ∧ polls p.1 events = patience

theorem start_orderly {σ : Type} (settings : LaunchSettings) (env : Environment σ) (patience : Nat)
    (stages : List LaunchStage) (state : σ) :
    Orderly settings stages patience (start settings env patience stages state).1
      (start settings env patience stages state).2.events := by
  have ends := start_ends env patience settings stages state
  generalize start settings env patience stages state = last at ends ⊢
  obtain ⟨outcome, run⟩ := last
  have lawful : Lawful settings stages run.events := by
    cases outcome with
    | started => exact ends.lawful
    | failed e => exact ends.1
    | running => exact ends.1
  have ordered := lawful.attempted_prefix
  refine ⟨ordered, (nodup_places stages).sublist (ordered.sublist.map _), ?_, ?_, ?_, ?_, ?_, ?_⟩
  · intro later past place spec began ended result split
    exact (split ▸ lawful).permitted.2
  · intro later past place spec began ended result split
    exact (split ▸ lawful).permitted
  · intro later past e split fault
    have last : later = [] := (split ▸ lawful).eq_nil_of_fault fault
    subst last
    have final : fault? settings run.events = some e := split ▸ fault
    refine ⟨rfl, ?_⟩
    cases outcome with
    | started => exact absurd (ends.faultless.symm.trans final) nofun
    | failed cause => exact congrArg Outcome.failed (Option.some.inj (ends.2.symm.trans final))
    | running => exact absurd (ends.2.1.symm.trans final) nofun
  · rintro e rfl
    exact ends.2
  · rintro rfl
    exact ⟨ends.attempted_eq, ends.ready⟩
  · rintro rfl
    exact ends.2.2

end RelayMesh.Startup
