import RelayMesh.Document.Form
import RelayMesh.Text.Basic

namespace RelayMesh

structure Address where
  toNat : Nat
  isLt : toNat < UInt32.size
deriving DecidableEq

instance : Inhabited Address := ⟨⟨0, by decide⟩⟩

namespace Address

/-- The address with the given number. No caller exceeds 32 bits; what does is taken modulo their
range. -/
def ofNat (n : Nat) : Address :=
  ⟨n % UInt32.size, Nat.mod_lt _ (by decide)⟩

@[simp] theorem toNat_ofNat (n : Nat) : (ofNat n).toNat = n % UInt32.size := rfl

theorem toNat_ofNat_of_lt {n : Nat} (fits : n < UInt32.size) : (ofNat n).toNat = n :=
  Nat.mod_eq_of_lt fits

theorem ext_toNat {a b : Address} (same : a.toNat = b.toNat) : a = b := by
  cases a; cases b; cases same; rfl

def octets (a : Address) : List Nat :=
  [a.toNat / 16777216 % 256, a.toNat / 65536 % 256, a.toNat / 256 % 256, a.toNat % 256]

def lastOctet (a : Address) : UInt8 :=
  UInt8.ofNat (a.toNat % 256)

def ofOctets (a b c d : Nat) : Address :=
  ofNat (((a * 256 + b) * 256 + c) * 256 + d)

def print (a : Address) : List Char :=
  ['.'].intercalate (a.octets.map Text.decimal)

def toString (a : Address) : String :=
  String.ofList a.print

instance : ToString Address := ⟨toString⟩

def octet? (digits : List Char) : Option Nat :=
  if digits.length ≤ 3 then (Text.natural? digits).filter (· < 256) else none

def ofChars? (allowed : List Char → Bool) (cs : List Char) : Option Address :=
  match Text.splitOn '.' cs with
  | [a, b, c, d] =>
    if [a, b, c, d].all allowed then do
      return ofOctets (← octet? a) (← octet? b) (← octet? c) (← octet? d)
    else none
  | _ => none

def noLeadingZero (digits : List Char) : Bool :=
  digits.head? != some '0' || digits.length == 1

def read? (s : String) : Option Address :=
  ofChars? noLeadingZero s.toList

end Address

instance : Form Address where
  write a := .text a.toString
  read?
    | .text s => Address.read? s
    | _ => none

structure SocketAddress where
  address : Address
  port : UInt16
deriving DecidableEq

namespace SocketAddress

def print (s : SocketAddress) : List Char :=
  s.address.print ++ ':' :: Text.decimal s.port.toNat

def toString (s : SocketAddress) : String :=
  String.ofList s.print

instance : ToString SocketAddress := ⟨toString⟩

def read? (s : String) : Option SocketAddress :=
  match Text.splitOn ':' s.toList with
  | [address, port] => do
    let address ← Address.ofChars? Address.noLeadingZero address
    let port ← (Text.natural? port).filter (· < UInt16.size)
    return ⟨address, UInt16.ofNat port⟩
  | _ => none

end SocketAddress

instance : Form SocketAddress where
  write s := .text s.toString
  read?
    | .text s => SocketAddress.read? s
    | _ => none

end RelayMesh
