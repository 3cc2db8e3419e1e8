import RelayMesh.NetworkPlan.Form
import RelayMesh.Proofs.Addressing.Form
import RelayMesh.Proofs.Launch.Form

namespace RelayMesh

open Document hiding read?
open Form (write read?)
open ReadsBack (read?_write)

@[simp] theorem writable_meshMode (mode : MeshMode) : (write mode).Writable := .text _

instance : ReadsBack MeshMode := ⟨fun mode _ => by cases mode <;> rfl⟩

/-! ### Links, routes and delays -/

@[simp] theorem writable_link {l : Link} :
    (write l).Writable ↔ l.a < UInt64.size ∧ l.b < UInt64.size := by
  change Writable (.object [("a", write l.a), ("b", write l.b), ("subnet", write l.subnet)]) ↔ _
  simp [writable_object]

theorem read?_link (a b subnet : Document) :
    read? (.object [("a", a), ("b", b), ("subnet", subnet)])
      = (do return Link.mk (← read? a) (← read? b) (← read? subnet)) := by
  change (record? _ (.object _)).bind _ = _
  simp [record?_object, lookup_cons, required?]

instance : ReadsBack Link where
  read?_write l writable := by
    rw [writable_link] at writable
    refine (read?_link _ _ _).trans ?_
    simp [read?_write, writable]

@[simp] theorem writable_route {r : Route} : (write r).Writable ↔ r.onHost < UInt64.size := by
  change Writable (.object [("on_host", write r.onHost), ("destination", write r.destination),
    ("via", write r.via)]) ↔ _
  simp [writable_object]

theorem read?_route (onHost destination via : Document) :
    read? (.object [("on_host", onHost), ("destination", destination), ("via", via)])
      = (do return Route.mk (← read? onHost) (← read? destination) (← read? via)) := by
  change (record? _ (.object _)).bind _ = _
  simp [record?_object, lookup_cons, required?]

instance : ReadsBack Route where
  read?_write r writable := by
    rw [writable_route] at writable
    refine (read?_route _ _ _).trans ?_
    simp [read?_write, writable]

@[simp] theorem writable_linkShaping {s : LinkShaping} :
    (write s).Writable ↔ s.a < UInt64.size ∧ s.b < UInt64.size ∧ s.delay.isFinite = true := by
  change Writable (.object [("a", write s.a), ("b", write s.b), ("delay_ms", write s.delay)]) ↔ _
  simp [writable_object]

theorem read?_linkShaping (a b delay : Document) :
    read? (.object [("a", a), ("b", b), ("delay_ms", delay)])
      = (do return LinkShaping.mk (← read? a) (← read? b) (← read? delay)) := by
  change (record? _ (.object _)).bind _ = _
  simp [record?_object, lookup_cons, required?]

instance : ReadsBack LinkShaping where
  read?_write s writable := by
    rw [writable_linkShaping] at writable
    refine (read?_linkShaping _ _ _).trans ?_
    simp [read?_write, writable]

/-! ### Plans -/

@[simp] theorem writable_networkPlan {p : NetworkPlan} :
    (write p).Writable ↔ (write p.topology).Writable ∧ (write p.addresses).Writable ∧
      (write p.links).Writable ∧ (write p.interfaces).Writable ∧ (write p.routes).Writable ∧
      (write p.shaping).Writable ∧ (write p.launch).Writable := by
  change Writable (.object [("mesh", write p.mesh), ("topology", write p.topology),
    ("addresses", write p.addresses), ("links", write p.links),
    ("interfaces", write p.interfaces), ("routes", write p.routes),
    ("shaping", write p.shaping), ("launch", write p.launch)]) ↔ _
  simp [writable_object]

theorem read?_networkPlan
    (mesh topology addresses links interfaces routes shaping launch : Document) :
    read? (.object [("mesh", mesh), ("topology", topology), ("addresses", addresses),
        ("links", links), ("interfaces", interfaces), ("routes", routes),
        ("shaping", shaping), ("launch", launch)])
      = (do
        return NetworkPlan.mk (← read? mesh) (← read? topology) (← read? addresses)
          (← read? links) (← read? interfaces) (← read? routes) (← read? shaping)
          (← read? launch)) := by
  change (record? _ (.object _)).bind _ = _
  simp [record?_object, lookup_cons, required?]

instance : ReadsBack NetworkPlan where
  read?_write p writable := by
    obtain ⟨topology, addresses, links, interfaces, routes, shaping, launch⟩ :=
      writable_networkPlan.mp writable
    refine (read?_networkPlan _ _ _ _ _ _ _ _).trans ?_
    simp [read?_write p.mesh, read?_write _ topology, read?_write _ addresses,
      read?_write _ links, read?_write _ interfaces, read?_write _ routes,
      read?_write _ shaping, read?_write _ launch]

namespace NetworkPlan

theorem ofText?_text {p : NetworkPlan} (writable : (write p).Writable) :
    ofText? p.text = some p := by
  rw [ofText?, text, read?_prettyText writable, Option.bind_some, read?_write p writable]

end NetworkPlan

end RelayMesh
