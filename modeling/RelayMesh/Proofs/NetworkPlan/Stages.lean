import RelayMesh.NetworkPlan
import RelayMesh.Proofs.Addressing.Interfaces
import RelayMesh.Proofs.Routing.Routes

namespace RelayMesh.NetworkPlan

open Checked (bind_ok pure_ok mapError_ok)

theorem compile_spec {c : Configuration} {doc : Document} {p : NetworkPlan}
    (compiled : compile c doc = .ok p) :
    Topology.load c.duplicateEdges doc = .ok p.topology ∧
      c.addressing.allocate p.topology = .ok p.addresses ∧
      Routing.synthesize p.topology p.addresses c.mesh = .ok p.routes ∧
      LaunchPlan.build p.topology p.addresses c.launch = .ok p.launch ∧
      (∃ delays, c.delays.resolve p.topology = .ok delays ∧
        p.shaping = delays.shaping p.topology (p.topology.links c.mesh)) ∧
      p.links = linksOf p.topology p.addresses (p.topology.links c.mesh) ∧
      p.interfaces = p.addresses.interfaces (some (p.topology.links c.mesh)) ∧
      p.mesh = c.mesh := by
  simp only [compile, bind_ok, pure_ok, mapError_ok] at compiled
  obtain ⟨topology, ht, addresses, ha, routes, hr, delays, hd, launch, hl, rfl⟩ := compiled
  exact ⟨ht, ha, hr, hl, ⟨delays, hd, rfl⟩, rfl, rfl, rfl⟩

section Compiled

variable {c : Configuration} {doc : Document} {p : NetworkPlan} (compiled : compile c doc = .ok p)
include compiled

theorem build_of_compile : Topology.load c.duplicateEdges doc = .ok p.topology ∧
    c.addressing.check = .ok () ∧ c.addressing.build p.topology = .ok p.addresses := by
  obtain ⟨loaded, allocated, _⟩ := compile_spec compiled
  exact ⟨loaded, AddressSpace.allocate_spec.mp allocated⟩

theorem interfaces_of_compile :
    p.interfaces = p.addresses.interfaces (some (p.topology.links c.mesh)) := by
  obtain ⟨_, _, _, _, _, _, interfaces, _⟩ := compile_spec compiled
  exact interfaces

end Compiled

end RelayMesh.NetworkPlan
