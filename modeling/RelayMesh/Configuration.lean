import RelayMesh.Addressing.Space
import RelayMesh.Delay
import RelayMesh.Launch.Process
import RelayMesh.Measurement.Trace
import RelayMesh.Routing.Mesh

namespace RelayMesh

structure DelayOverride where
  a : String
  b : String
  delay : Binary64
deriving DecidableEq, Inhabited

structure MeasurementSettings where
  directory : String := "measurements"
  fileCount : Nat := 1
  excludedBeginnings : List String := ["baseline_test_"]
  trace : Measurement.TraceBaseline := .standard
deriving DecidableEq, Inhabited

structure Configuration where
  addressing : AddressSpace := .standard
  mesh : MeshMode := .full
  duplicateEdges : DuplicateEdges := .firstWins
  defaultDelay : Option Binary64 := none
  delayOverrides : List DelayOverride := []
  launch : LaunchSettings := {}
  measurement : MeasurementSettings := {}
deriving DecidableEq, Inhabited

def Configuration.delays (c : Configuration) : Delays String :=
  c.delayOverrides.foldl (fun d o => d.withRule o.a o.b o.delay) { fallback := c.defaultDelay }

end RelayMesh
