import RelayMesh.Launch.Startup

namespace RelayMesh.Startup

structure Script where
  readyAfter : Option Nat := none
  checkErrorAt : Option Nat := none
  checkSleep : Nat := 0
  spawnFails : Bool := false
deriving DecidableEq, Inhabited

def Script.checkDuration (script : Script) : Nat :=
  min script.checkSleep longestSleep

def Script.stepDuration (script : Script) (settings : LaunchSettings) : Nat :=
  min settings.pollInterval.toNat longestSleep + script.checkDuration

def Script.settledAfter (script : Script) (settings : LaunchSettings) : Nat :=
  script.readyAfter.getD 0 + script.checkErrorAt.getD 0
    + settings.readyTimeout.toNat / max 1 (script.stepDuration settings) + 2

structure Scenario where
  others : Script
  hosts : List (String × Script) := []
deriving DecidableEq, Inhabited

namespace Scenario

def script (s : Scenario) (host : String) : Script :=
  (s.hosts.lookup host).getD s.others

abbrev PollCounts := List (String × Nat)

def countPoll (host : String) : PollCounts → PollCounts
  | [] => [(host, 1)]
  | entry :: rest =>
    if entry.1 = host then (host, entry.2 + 1) :: rest else entry :: countPoll host rest

def pollCount (counts : PollCounts) (host : String) : Nat :=
  (counts.lookup host).getD 0

def pollResult (script : Script) (host : String) (n : Nat) : Except LaunchError Bool :=
  if script.checkErrorAt = some n then .error (.check host s!"simulated failure of poll {n}")
  else .ok (script.readyAfter.any (· ≤ n))

def environment (s : Scenario) : Environment PollCounts where
  spawn counts _ spec :=
    let result := if (s.script spec.host).spawnFails then
        .error (.spawn spec.host spec.binary "simulated")
      else .ok ()
    (⟨0, result⟩, counts)
  check counts _ spec :=
    let script := s.script spec.host
    let counts := countPoll spec.host counts
    (⟨script.checkDuration, pollResult script spec.host (pollCount counts spec.host)⟩, counts)

def patience (s : Scenario) (settings : LaunchSettings) : Nat :=
  (s.others :: s.hosts.map (·.2)).foldl (fun n script => max n (script.settledAfter settings)) 0

def run (s : Scenario) (settings : LaunchSettings) (stages : List LaunchStage) :
    Outcome × List Event :=
  let (outcome, final) := start settings s.environment (s.patience settings) stages []
  (outcome, final.events.reverse)

end Scenario

def Event.line : Event → String
  | .spawn _ spec began _ _ => s!"{began} spawn {spec.host}"
  | .poll _ spec _ ended (.ok true) => s!"{ended} ready {spec.host}"
  | .poll _ spec _ ended (.ok false) => s!"{ended} wait {spec.host}"
  | .poll _ spec _ ended (.error _) => s!"{ended} fail {spec.host}"

end RelayMesh.Startup
