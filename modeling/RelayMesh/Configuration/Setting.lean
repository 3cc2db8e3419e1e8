import RelayMesh.Draft
import RelayMesh.Network.Range
import RelayMesh.Routing.Mesh
import RelayMesh.Topology.Form

/-!
Settings and how they are read from drafts. Where a text is expected any scalar will do, as it is
spelled; no other kind of value takes the place of another, and a scalar in quotes is always a text.
-/

namespace RelayMesh

class Setting (α : Type) where
  ofDraft? : Draft → Option α

namespace Setting

instance : Setting String := ⟨Draft.scalar?⟩

instance : Setting Bool where
  ofDraft?
    | .word "true" => some true
    | .word "false" => some false
    | _ => none

def below? (limit : Nat) : Draft → Option Nat
  | .word s => (Text.natural? s.toList).filter (· < limit)
  | _ => none

instance : Setting Nat := ⟨below? UInt64.size⟩

instance : Setting UInt8 := ⟨fun d => (below? UInt8.size d).map UInt8.ofNat⟩

instance : Setting UInt16 := ⟨fun d => (below? UInt16.size d).map UInt16.ofNat⟩

instance : Setting UInt32 := ⟨fun d => (below? UInt32.size d).map UInt32.ofNat⟩

instance : Setting UInt64 := ⟨fun d => (below? UInt64.size d).map UInt64.ofNat⟩

instance : Setting Binary64 where
  ofDraft?
    | .word s => (Decimal.read? s).filter (·.isFinite)
    | _ => none

instance : Setting Network := ⟨fun d => d.scalar?.bind Network.read?⟩

instance : Setting MeshMode := ⟨fun d => d.scalar?.bind MeshMode.named?⟩

instance : Setting DuplicateEdges := ⟨fun d => d.scalar?.bind DuplicateEdges.named?⟩

instance [Setting α] : Setting (Option α) where
  ofDraft?
    | .word "null" => some none
    | d => (ofDraft? d).map some

instance [Setting α] : Setting (List α) where
  ofDraft?
    | .list items => items.mapM ofDraft?
    | _ => none

def values (fields : List (String × Draft)) (name : String) : List Draft :=
  (fields.filter (·.1 == name)).map (·.2)

/-- The setting of a given name, or its standard value if it is missing. None is given twice. -/
def get? [Setting α] (fields : List (String × Draft)) (name : String) (standard : α) : Option α :=
  match values fields name with
  | [] => some standard
  | [d] => ofDraft? d
  | _ => none

def need? [Setting α] (fields : List (String × Draft)) (name : String) : Option α :=
  match values fields name with
  | [d] => ofDraft? d
  | _ => none

end Setting

end RelayMesh
