import RelayMesh.Launch.Process

/-!
Startup of a mesh on a clock that advances only while an environment works and between two polls.
All processes of a stage are spawned before the first of them is polled, and each is polled until it
is ready, its check fails, or its time is up; a stage starts only when the one before it is ready.
-/

namespace RelayMesh.Startup

structure Place where
  stage : Nat
  index : Nat
deriving DecidableEq, Inhabited

structure Reply (α : Type) where
  duration : Nat
  result : Except LaunchError α

/-- The outside world: it spawns processes and checks their probes. Its state may hold all that
happened so far, so every answer may depend on the whole history. -/
structure Environment (σ : Type) where
  spawn : σ → Nat → ProcessSpec → Reply Unit × σ
  check : σ → Nat → ProcessSpec → Reply Bool × σ

inductive Event where
  | spawn (place : Place) (spec : ProcessSpec) (began ended : Nat)
      (result : Except LaunchError Unit)
  | poll (place : Place) (spec : ProcessSpec) (began ended : Nat)
      (result : Except LaunchError Bool)

/-- A run under way: the clock, the state of the environment, and the events, the last one first. -/
structure Run (σ : Type) where
  clock : Nat
  state : σ
  events : List Event

/-- How a run ends, or that its patience ran out before its end. -/
inductive Outcome where
  | started
  | failed (e : LaunchError)
  | running
deriving DecidableEq

variable {σ : Type}

def Run.begin (state : σ) : Run σ := ⟨0, state, []⟩

def Run.spawn (env : Environment σ) (place : Place) (spec : ProcessSpec) (run : Run σ) :
    Except LaunchError Unit × Run σ :=
  let (reply, state) := env.spawn run.state run.clock spec
  let ended := run.clock + reply.duration
  (reply.result, ⟨ended, state, .spawn place spec run.clock ended reply.result :: run.events⟩)

def Run.poll (env : Environment σ) (place : Place) (spec : ProcessSpec) (run : Run σ) :
    Except LaunchError Bool × Run σ :=
  let (reply, state) := env.check run.state run.clock spec
  let ended := run.clock + reply.duration
  (reply.result, ⟨ended, state, .poll place spec run.clock ended reply.result :: run.events⟩)

/-- Thirty years of 365 days in milliseconds. No sleep lasts longer. -/
def longestSleep : Nat := 946080000000

def Run.sleep (duration : Nat) (run : Run σ) : Run σ :=
  { run with clock := run.clock + min duration longestSleep }

def spawnAll (env : Environment σ) : List (Place × ProcessSpec) → Run σ → Outcome × Run σ
  | [], run => (.started, run)
  | (place, spec) :: rest, run =>
    match run.spawn env place spec with
    | (.ok (), run) => spawnAll env rest run
    | (.error e, run) => (.failed e, run)

/-- Polls a process until it is ready, at most as often as `patience` says. The deadline counts at
the end of a poll, so a poll that ends late still has its say. -/
def pollUntil (settings : LaunchSettings) (env : Environment σ) (place : Place)
    (spec : ProcessSpec) (deadline : Nat) : Nat → Run σ → Outcome × Run σ
  | 0, run => (.running, run)
  | patience + 1, run =>
    match run.poll env place spec with
    | (.error e, run) => (.failed e, run)
    | (.ok true, run) => (.started, run)
    | (.ok false, run) =>
      if deadline ≤ run.clock then
        (.failed (.notReady spec.host spec.probe settings.readyTimeout), run)
      else
        pollUntil settings env place spec deadline patience
          (run.sleep settings.pollInterval.toNat)

def waitReady (settings : LaunchSettings) (env : Environment σ) (patience : Nat) (place : Place)
    (spec : ProcessSpec) (run : Run σ) : Outcome × Run σ :=
  if spec.probe = .started then (.started, run)
  else
    pollUntil settings env place spec (run.clock + settings.readyTimeout.toNat) patience run

def waitAll (settings : LaunchSettings) (env : Environment σ) (patience : Nat) :
    List (Place × ProcessSpec) → Run σ → Outcome × Run σ
  | [], run => (.started, run)
  | (place, spec) :: rest, run =>
    match waitReady settings env patience place spec run with
    | (.started, run) => waitAll settings env patience rest run
    | stopped => stopped

def placed (stage : Nat) (processes : List ProcessSpec) : List (Place × ProcessSpec) :=
  processes.zipIdx.map fun (spec, index) => (⟨stage, index⟩, spec)

def startStage (settings : LaunchSettings) (env : Environment σ) (patience : Nat)
    (processes : List (Place × ProcessSpec)) (run : Run σ) : Outcome × Run σ :=
  match spawnAll env processes run with
  | (.started, run) => waitAll settings env patience processes run
  | stopped => stopped

def startStages (settings : LaunchSettings) (env : Environment σ) (patience : Nat) :
    List (List (Place × ProcessSpec)) → Run σ → Outcome × Run σ
  | [], run => (.started, run)
  | stage :: rest, run =>
    match startStage settings env patience stage run with
    | (.started, run) => startStages settings env patience rest run
    | stopped => stopped

/-- Starts all stages of a plan. Each wait makes at most `patience` polls. -/
def start (settings : LaunchSettings) (env : Environment σ) (patience : Nat)
    (stages : List LaunchStage) (state : σ) : Outcome × Run σ :=
  startStages settings env patience
    (stages.zipIdx.map fun (stage, i) => placed i stage.processes) (Run.begin state)

/-- A patience that no wait exceeds when the clock advances between polls. -/
def sufficientPatience (settings : LaunchSettings) : Nat :=
  settings.readyTimeout.toNat / min settings.pollInterval.toNat longestSleep + 2

end RelayMesh.Startup
