import RelayMesh.Network.Address

/-!
Networks: an address together with the length of the part that all members share. The host bits of
the address are kept, so a network can also give an interface its address; the members depend on the
shared part only.
-/

namespace RelayMesh

structure Network where
  address : Address
  length : Nat
  length_le : length ≤ 32 := by decide
deriving DecidableEq

instance : Inhabited Network := ⟨⟨default, 0, by decide⟩⟩

namespace Network

def size (net : Network) : Nat :=
  Nat.pow 2 (32 - net.length)

def base (net : Network) : Nat :=
  net.address.toNat / net.size * net.size

def last (net : Network) : Nat :=
  net.base + net.size - 1

def truncated (net : Network) : Network :=
  ⟨.ofNat net.base, net.length, net.length_le⟩

def Holds (net : Network) (a : Address) : Prop :=
  net.base ≤ a.toNat ∧ a.toNat < net.base + net.size

instance (net : Network) (a : Address) : Decidable (net.Holds a) :=
  inferInstanceAs (Decidable (_ ∧ _))

def contains (outer inner : Network) : Bool :=
  outer.base ≤ inner.base && inner.last ≤ outer.last

def withAddress (net : Network) (a : Address) : Network :=
  { net with address := a }

def print (net : Network) : List Char :=
  net.address.print ++ '/' :: Text.decimal net.length

def toString (net : Network) : String :=
  String.ofList net.print

instance : ToString Network := ⟨toString⟩

def read? (s : String) : Option Network :=
  match Text.splitOn '/' s.toList with
  | [address, length] => do
    let address ← Address.ofChars? (fun _ => true) address
    let n ← if length.length ≤ 2 then Text.natural? length else none
    if fits : n ≤ 32 then return ⟨address, n, fits⟩ else none
  | _ => none

def subnetCount (net : Network) (length : Nat) : Nat :=
  if net.length ≤ length ∧ length ≤ 32 then Nat.pow 2 (length - net.length) else 0

def subnet? (net : Network) (length index : Nat) : Option Network :=
  if fits : net.length ≤ length ∧ length ≤ 32 then
    if index < net.subnetCount length then
      some ⟨.ofNat (net.base + index * Nat.pow 2 (32 - length)), length, fits.2⟩
    else none
  else none

/-- The number of addresses for hosts in a network with the given length. The least and the
greatest member are no hosts, unless there are no others. -/
def hostCount (length : Nat) : Nat :=
  if length = 32 then 1
  else if length = 31 then 2
  else if length < 31 then Nat.pow 2 (32 - length) - 2
  else 0

def host? (net : Network) (index : Nat) : Option Address :=
  if index < hostCount net.length then
    some (.ofNat (net.base + index + if net.length < 31 then 1 else 0))
  else none

/-- The address at a distance from the least member, which must be a host. -/
def atOffset? (net : Network) (offset : Nat) : Option Address :=
  if offset < net.size ∧ (31 ≤ net.length ∨ offset + 1 ≠ net.size) then
    some (.ofNat (net.base + offset))
  else none

end Network

instance : Form Network where
  write net := .text net.toString
  read?
    | .text s => Network.read? s
    | _ => none

end RelayMesh
