import RelayMesh.Launch.Simulation
import RelayMesh.Proofs.Launch.Startup

/-! The moments at which a process is polled. Two polls are a pause apart, and the time of a process
counts from the beginning of its own wait, so the number of polls is bounded whatever the checks
answer and however long they take. -/

namespace RelayMesh.Startup

structure Attempt where
  began : Nat
  ended : Nat
  result : Except LaunchError Bool

def pollEvents (place : Place) (spec : ProcessSpec) (attempts : List Attempt) : List Event :=
  (attempts.map fun a => .poll place spec a.began a.ended a.result).reverse

def pause (settings : LaunchSettings) : Nat :=
  min settings.pollInterval.toNat longestSleep

/-- The number of pauses that fill the time of a process, and one poll more. -/
def mostPolls (settings : LaunchSettings) : Nat :=
  (settings.readyTimeout.toNat + pause settings - 1) / pause settings + 1

def timeout (settings : LaunchSettings) (spec : ProcessSpec) : LaunchError :=
  .notReady spec.host spec.probe settings.readyTimeout

/-- The first poll begins at a given moment, and each other one a pause after the end of the poll
before it. -/
def Paced (pause : Nat) : Nat → List Attempt → Prop
  | _, [] => True
  | moment, a :: rest => a.began = moment ∧ moment ≤ a.ended ∧ Paced pause (a.ended + pause) rest

def Attempt.Unready (deadline : Nat) (a : Attempt) : Prop :=
  a.result = .ok false ∧ a.ended < deadline

/-- How the last poll ends a wait: with its own result, however late, or because time is up. -/
inductive Verdict (late : LaunchError) (deadline : Nat) (a : Attempt) : Outcome → Prop where
  | ready (found : a.result = .ok true) : Verdict late deadline a .started
  | failed {e : LaunchError} (broken : a.result = .error e) : Verdict late deadline a (.failed e)
  | expired (unready : a.result = .ok false) (elapsed : deadline ≤ a.ended) :
    Verdict late deadline a (.failed late)

/-- A wait from its beginning to its end. Its last poll ends it, and all polls before it found the
process unready in time. -/
structure Wait (settings : LaunchSettings) (spec : ProcessSpec) (began : Nat)
    (attempts : List Attempt) (outcome : Outcome) (ended : Nat) : Prop where
  paced : Paced (pause settings) began attempts
  bounded : attempts.length ≤ mostPolls settings
  verdict : ∃ earlier last, attempts = earlier ++ [last] ∧ last.ended = ended ∧
    (∀ a ∈ earlier, a.Unready (began + settings.readyTimeout.toNat)) ∧
    Verdict (timeout settings spec) (began + settings.readyTimeout.toNat) last outcome

/-- A clock and the history up to it: spawns and whole waits, each from the end of what is before
it. A wait has its full time from there on. -/
inductive Punctual (settings : LaunchSettings) : Nat → List Event → Prop where
  | begin : Punctual settings 0 []
  | spawn {clock ended : Nat} {past : List Event} (before : Punctual settings clock past)
      (place : Place) (spec : ProcessSpec) (result : Except LaunchError Unit)
      (order : clock ≤ ended) :
      Punctual settings ended (.spawn place spec clock ended result :: past)
  | wait {clock ended : Nat} {past : List Event} {spec : ProcessSpec} {attempts : List Attempt}
      {outcome : Outcome} (before : Punctual settings clock past) (place : Place)
      (waited : Wait settings spec clock attempts outcome ended) :
      Punctual settings ended (pollEvents place spec attempts ++ past)

theorem pollEvents_cons (place : Place) (spec : ProcessSpec) (a : Attempt) (rest : List Attempt) :
    pollEvents place spec (a :: rest) =
      pollEvents place spec rest ++ [.poll place spec a.began a.ended a.result] := by
  simp [pollEvents]

theorem Paced.within {pause moment deadline : Nat} {attempts : List Attempt}
    (paced : Paced pause moment attempts) (early : ∀ a ∈ attempts, a.ended < deadline)
    (some : attempts ≠ []) : moment + (attempts.length - 1) * pause < deadline := by
  induction attempts generalizing moment with
  | nil => contradiction
  | cons a rest ih =>
    obtain ⟨_, order, later⟩ := paced
    have own := early a List.mem_cons_self
    cases rest with
    | nil =>
      simp only [List.length_singleton, Nat.sub_self, Nat.zero_mul, Nat.add_zero]
      omega
    | cons b more =>
      have next := ih later (fun c member => early c (List.mem_cons_of_mem a member)) nofun
      simp only [List.length_cons, Nat.add_sub_cancel, Nat.succ_mul] at next ⊢
      omega

theorem Paced.of_append {pause moment : Nat} {front back : List Attempt}
    (paced : Paced pause moment (front ++ back)) : Paced pause moment front := by
  induction front generalizing moment with
  | nil => trivial
  | cons a rest ih =>
    obtain ⟨began, order, later⟩ := paced
    exact ⟨began, order, ih later⟩

theorem pause_pos {settings : LaunchSettings} (positive : 0 < settings.pollInterval) :
    0 < pause settings :=
  Nat.lt_min.mpr ⟨UInt64.lt_iff_toNat_lt.mp positive, by decide⟩

theorem length_lt_mostPolls {settings : LaunchSettings} (positive : 0 < settings.pollInterval)
    {moment : Nat} {attempts : List Attempt} (paced : Paced (pause settings) moment attempts)
    (unready : ∀ a ∈ attempts, a.Unready (moment + settings.readyTimeout.toNat)) :
    attempts.length < mostPolls settings := by
  refine Nat.lt_succ_of_le ((Nat.le_div_iff_mul_le (pause_pos positive)).mpr ?_)
  rcases eq_or_ne attempts [] with rfl | some
  · simp
  · have within := paced.within (fun a member => (unready a member).2) some
    obtain ⟨k, length⟩ := Nat.exists_eq_succ_of_ne_zero (List.length_eq_zero_iff.not.mpr some)
    rw [length, Nat.succ_sub_one] at within
    rw [length, Nat.succ_mul]
    omega

theorem Wait.ne_running {settings : LaunchSettings} {spec : ProcessSpec} {began ended : Nat}
    {attempts : List Attempt} {outcome : Outcome}
    (waited : Wait settings spec began attempts outcome ended) : outcome ≠ .running := by
  obtain ⟨_, _, _, _, _, verdict⟩ := waited.verdict
  cases verdict <;> nofun

/-- A part of a startup that came to its end, in a history that is punctual up to there. -/
def Kept {σ : Type} (settings : LaunchSettings) (last : Outcome × Run σ) : Prop :=
  last.1 ≠ .running ∧ Punctual settings last.2.clock last.2.events

section Runs

variable {σ : Type} (env : Environment σ) {settings : LaunchSettings}

theorem poll_after (place : Place) (spec : ProcessSpec) (run : Run σ) :
    ∃ duration state result, run.poll env place spec = (result, ⟨run.clock + duration, state,
      .poll place spec run.clock (run.clock + duration) result :: run.events⟩) :=
  ⟨_, _, _, rfl⟩

theorem spawn_after (place : Place) (spec : ProcessSpec) (run : Run σ) :
    ∃ duration state result, run.spawn env place spec = (result, ⟨run.clock + duration, state,
      .spawn place spec run.clock (run.clock + duration) result :: run.events⟩) :=
  ⟨_, _, _, rfl⟩

theorem pollUntil_attempts (settings : LaunchSettings) (place : Place) (spec : ProcessSpec)
    (deadline patience : Nat) (run : Run σ) :
    ∃ attempts, (pollUntil settings env place spec deadline patience run).2.events =
        pollEvents place spec attempts ++ run.events ∧
      Paced (pause settings) run.clock attempts ∧
      ((attempts.length = patience ∧ ∀ a ∈ attempts, a.Unready deadline) ∨
        ∃ earlier last, attempts = earlier ++ [last] ∧
          last.ended = (pollUntil settings env place spec deadline patience run).2.clock ∧
          (∀ a ∈ earlier, a.Unready deadline) ∧
          Verdict (timeout settings spec) deadline last
            (pollUntil settings env place spec deadline patience run).1) := by
  induction patience generalizing run with
  | zero => exact ⟨[], rfl, trivial, .inl ⟨rfl, nofun⟩⟩
  | succ patience ih =>
    obtain ⟨duration, state, result, answered⟩ := poll_after env place spec run
    have order : run.clock ≤ run.clock + duration := Nat.le_add_right _ _
    rw [pollUntil, answered]
    rcases result with e | ready
    · exact ⟨[⟨run.clock, run.clock + duration, .error e⟩], rfl, ⟨rfl, order, trivial⟩,
        .inr ⟨[], _, rfl, rfl, nofun, .failed rfl⟩⟩
    cases ready with
    | true =>
      exact ⟨[⟨run.clock, run.clock + duration, .ok true⟩], rfl, ⟨rfl, order, trivial⟩,
        .inr ⟨[], _, rfl, rfl, nofun, .ready rfl⟩⟩
    | false =>
      simp only
      by_cases late : deadline ≤ run.clock + duration
      · rw [if_pos late]
        exact ⟨[⟨run.clock, run.clock + duration, .ok false⟩], rfl, ⟨rfl, order, trivial⟩,
          .inr ⟨[], _, rfl, rfl, nofun, .expired rfl late⟩⟩
      · rw [if_neg late]
        obtain ⟨attempts, events, paced, ending⟩ :=
          ih (Run.sleep settings.pollInterval.toNat ⟨run.clock + duration, state,
            .poll place spec run.clock (run.clock + duration) (.ok false) :: run.events⟩)
        have unready : Attempt.Unready deadline ⟨run.clock, run.clock + duration, .ok false⟩ :=
          ⟨rfl, Nat.lt_of_not_le late⟩
        refine ⟨⟨run.clock, run.clock + duration, .ok false⟩ :: attempts, ?_,
          ⟨rfl, order, paced⟩, ?_⟩
        · rw [events, pollEvents_cons, List.append_assoc]
          rfl
        · rcases ending with ⟨length, each⟩ | ⟨earlier, last, rfl, ended, each, verdict⟩
          · exact .inl ⟨congrArg Nat.succ length, List.forall_mem_cons.mpr ⟨unready, each⟩⟩
          · exact .inr ⟨_ :: earlier, last, rfl, ended, List.forall_mem_cons.mpr ⟨unready, each⟩,
              verdict⟩

theorem Kept.started {run : Run σ} (punctual : Punctual settings run.clock run.events) :
    Kept settings (.started, run) :=
  ⟨fun same => Outcome.noConfusion same, punctual⟩

theorem Kept.failed {run : Run σ} {e : LaunchError}
    (punctual : Punctual settings run.clock run.events) : Kept settings (.failed e, run) :=
  ⟨fun same => Outcome.noConfusion same, punctual⟩

theorem Kept.next {last : Outcome × Run σ} {rest : Run σ → Outcome × Run σ}
    (kept : Kept settings last)
    (more : ∀ run : Run σ, Punctual settings run.clock run.events → Kept settings (rest run)) :
    Kept settings (match last with
      | (.started, run) => rest run
      | stopped => stopped) := by
  obtain ⟨outcome, run⟩ := last
  cases outcome with
  | started => exact more run kept.2
  | failed e => exact kept
  | running => exact kept

theorem spawnAll_kept (processes : List (Place × ProcessSpec)) {run : Run σ}
    (punctual : Punctual settings run.clock run.events) :
    Kept settings (spawnAll env processes run) := by
  induction processes generalizing run with
  | nil => exact .started punctual
  | cons p rest ih =>
    obtain ⟨duration, state, result, spawned⟩ := spawn_after env p.1 p.2 run
    have next := punctual.spawn p.1 p.2 result (Nat.le_add_right run.clock duration)
    rw [spawnAll, spawned]
    cases result with
    | error e => exact .failed next
    | ok => exact ih next

section Waits

variable {patience : Nat} (positive : 0 < settings.pollInterval)
  (enough : mostPolls settings ≤ patience)
include positive enough

theorem waitReady_wait (place : Place) {spec : ProcessSpec} (waits : spec.probe ≠ .started)
    (run : Run σ) : ∃ attempts,
      (waitReady settings env patience place spec run).2.events =
        pollEvents place spec attempts ++ run.events ∧
      Wait settings spec run.clock attempts (waitReady settings env patience place spec run).1
        (waitReady settings env patience place spec run).2.clock := by
  rw [waitReady, if_neg waits]
  obtain ⟨attempts, events, paced, ⟨length, each⟩ | ⟨earlier, last, rfl, ended, each, verdict⟩⟩ :=
    pollUntil_attempts env settings place spec (run.clock + settings.readyTimeout.toNat) patience
      run
  · -- Patience never runs out before the time does.
    have few := length_lt_mostPolls positive paced each
    omega
  · have few := length_lt_mostPolls positive paced.of_append each
    refine ⟨earlier ++ [last], events, paced, ?_, earlier, last, rfl, ended, each, verdict⟩
    rw [List.length_append, List.length_singleton]
    exact few

theorem waitReady_kept (place : Place) (spec : ProcessSpec) {run : Run σ}
    (punctual : Punctual settings run.clock run.events) :
    Kept settings (waitReady settings env patience place spec run) := by
  by_cases immediate : spec.probe = .started
  · rw [waitReady, if_pos immediate]
    exact .started punctual
  · obtain ⟨attempts, events, waited⟩ := waitReady_wait env positive enough place immediate run
    refine ⟨waited.ne_running, ?_⟩
    rw [events]
    exact punctual.wait place waited

theorem waitAll_kept (processes : List (Place × ProcessSpec)) {run : Run σ}
    (punctual : Punctual settings run.clock run.events) :
    Kept settings (waitAll settings env patience processes run) := by
  induction processes generalizing run with
  | nil => exact .started punctual
  | cons p rest ih =>
    exact (waitReady_kept env positive enough p.1 p.2 punctual).next fun _ reached => ih reached

theorem startStages_kept (groups : List (List (Place × ProcessSpec))) {run : Run σ}
    (punctual : Punctual settings run.clock run.events) :
    Kept settings (startStages settings env patience groups run) := by
  induction groups generalizing run with
  | nil => exact .started punctual
  | cons group rest ih =>
    refine Kept.next ?_ fun _ reached => ih reached
    exact (spawnAll_kept env group punctual).next fun _ begun =>
      waitAll_kept env positive enough group begun

end Waits

end Runs

/-- The polls of a wait whose time runs out: all find the process unready, and only the last of them
ends at the deadline or later. -/
def TimesOut (deadline : Nat) (attempts : List Attempt) : Prop :=
  ∃ earlier last, attempts = earlier ++ [last] ∧ (∀ a ∈ earlier, a.Unready deadline) ∧
    last.result = .ok false ∧ deadline ≤ last.ended

theorem Wait.timed_out_iff {settings : LaunchSettings} {spec : ProcessSpec} {began ended : Nat}
    {attempts : List Attempt} {outcome : Outcome}
    (waited : Wait settings spec began attempts outcome ended) :
    outcome = .failed (timeout settings spec) ↔
      TimesOut (began + settings.readyTimeout.toNat) attempts ∨
        ∃ a ∈ attempts, a.result = .error (timeout settings spec) := by
  obtain ⟨earlier, last, rfl, _, each, verdict⟩ := waited.verdict
  constructor
  · rintro rfl
    cases verdict with
    | failed broken => exact .inr ⟨last, by simp, broken⟩
    | expired unready elapsed => exact .inl ⟨earlier, last, rfl, each, unready, elapsed⟩
  · rintro (⟨_, other, same, _, unready, elapsed⟩ | ⟨a, member, broken⟩)
    · obtain rfl : last = other := List.singleton_inj.mp (List.append_inj' same rfl).2
      cases verdict with
      | ready found => simp [unready] at found
      | failed broken => simp [unready] at broken
      | expired => rfl
    · rcases List.mem_append.mp member with early | final
      · have unready := (each a early).1
        simp [broken] at unready
      · obtain rfl := List.mem_singleton.mp final
        cases verdict with
        | ready found => simp [broken] at found
        | failed other => rw [other] at broken; injection broken with same; rw [same]
        | expired unready => simp [broken] at unready

/-- What is true of the waits of an environment, on a clock that stands still but for sleeps and
checks. -/
structure Timed {σ : Type} (settings : LaunchSettings) (patience : Nat) (env : Environment σ) :
    Prop where
  wait (place : Place) (spec : ProcessSpec) (run : Run σ) (waits : spec.probe ≠ .started) :
    ∃ attempts, (waitReady settings env patience place spec run).2.events =
        pollEvents place spec attempts ++ run.events ∧
      Wait settings spec run.clock attempts (waitReady settings env patience place spec run).1
        (waitReady settings env patience place spec run).2.clock ∧
      ((waitReady settings env patience place spec run).1 = .failed (timeout settings spec) ↔
        TimesOut (run.clock + settings.readyTimeout.toNat) attempts ∨
          ∃ a ∈ attempts, a.result = .error (timeout settings spec))
  /-- A whole startup comes to its end, and each of its waits has its full time. -/
  startup (stages : List LaunchStage) (state : σ) :
    (start settings env patience stages state).1 ≠ .running ∧
      Punctual settings (start settings env patience stages state).2.clock
        (start settings env patience stages state).2.events

/-- A wait polls at least once, each further time a pause after the end of the poll before, and at
most once more than pauses fill its time. It ends with the first poll that is ready or fails, or
that ends at the deadline or later. -/
theorem waits_timed {settings : LaunchSettings} (positive : 0 < settings.pollInterval)
    {patience : Nat} (enough : mostPolls settings ≤ patience) {σ : Type} (env : Environment σ) :
    Timed settings patience env where
  wait place _ run waits := by
    obtain ⟨attempts, events, waited⟩ := waitReady_wait env positive enough place waits run
    exact ⟨attempts, events, waited, waited.timed_out_iff⟩
  startup _ _ := startStages_kept env positive enough _ .begin

section Examples

def hurried : LaunchSettings := { readyTimeout := 50, pollInterval := 20 }

def leisurely : LaunchSettings :=
  { readyTimeout := 18446744073709551615, pollInterval := 946080000001 }

def relayProcess : ProcessSpec := ⟨0, "relay", "moq-relay", [], [], .apiReachable "http://10.0.0.1"⟩

def neverReady : Scenario := ⟨{ checkSleep := 15 }, []⟩

def readyAtSecond : Scenario := ⟨{ readyAfter := some 2 }, []⟩

theorem neverReady_timed :
    0 < hurried.pollInterval ∧ mostPolls hurried ≤ 4 ∧ relayProcess.probe ≠ .started ∧
      waitReady hurried neverReady.environment 4 ⟨0, 0⟩ relayProcess (Run.begin []) =
        (.failed (timeout hurried relayProcess), ⟨50, [("relay", 2)],
          pollEvents ⟨0, 0⟩ relayProcess [⟨0, 15, .ok false⟩, ⟨35, 50, .ok false⟩]⟩) ∧
      Timed hurried 4 neverReady.environment :=
  ⟨by decide, by decide, nofun, rfl,
    waits_timed (by decide) (by decide) neverReady.environment⟩

theorem pollEvents_injective (place : Place) (spec : ProcessSpec) :
    Function.Injective (pollEvents place spec) := by
  intro _ _ same
  refine List.map_injective_iff.mpr ?_ (List.reverse_injective same)
  rintro ⟨_, _, _⟩ ⟨_, _, _⟩ events
  cases events
  rfl

theorem leisurely_not_paced :
    0 < leisurely.pollInterval ∧ mostPolls leisurely ≤ 19498082 ∧ ¬ ∃ attempts,
      (waitReady leisurely readyAtSecond.environment 19498082 ⟨0, 0⟩ relayProcess
        (Run.begin [])).2.events = pollEvents ⟨0, 0⟩ relayProcess attempts ∧
      Paced leisurely.pollInterval.toNat 0 attempts := by
  refine ⟨by decide, by decide, ?_⟩
  rintro ⟨attempts, events, paced⟩
  have polled : pollEvents ⟨0, 0⟩ relayProcess
      [⟨0, 0, .ok false⟩, ⟨longestSleep, longestSleep, .ok true⟩] =
        pollEvents ⟨0, 0⟩ relayProcess attempts := events
  obtain rfl := pollEvents_injective _ _ polled
  exact absurd paced.2.2.1 (by decide)

end Examples

end RelayMesh.Startup
