import RelayMesh.Network.Range
import RelayMesh.Proofs.Document.Form
import RelayMesh.Proofs.Text.Lines
import RelayMesh.Proofs.Text.Natural

namespace RelayMesh

open Document hiding read?
open Form (write read?)

namespace Text

theorem not_mem_decimal {c : Char} (other : isDigit c = false) (n : Nat) : c ∉ decimal n :=
  fun member => ne_of_isDigit (isDigit_of_mem_decimal c member) other rfl

end Text

namespace Address

theorem octet?_decimal {n : Nat} (small : n < 256) : octet? (Text.decimal n) = some n := by
  have short : (Text.decimal n).length ≤ 3 :=
    (Nat.length_toDigits_le_iff (by decide) (by decide)).mpr (by omega)
  rw [octet?, if_pos short, Text.natural?_decimal, Option.filter_some,
    if_pos (by simpa using small)]

theorem noLeadingZero_decimal (n : Nat) : noLeadingZero (Text.decimal n) = true := by
  by_cases zero : n = 0
  · subst zero
    rfl
  · rw [noLeadingZero, bne_iff_ne.mpr (Text.head?_decimal_ne zero), Bool.true_or]

theorem octets_lt (a : Address) : ∀ n ∈ a.octets, n < 256 := by
  have positive : 0 < 256 := by decide
  simp [octets, Nat.mod_lt _ positive]

theorem ofOctets_octets (a : Address) :
    ofOctets (a.toNat / 16777216 % 256) (a.toNat / 65536 % 256) (a.toNat / 256 % 256)
      (a.toNat % 256) = a := by
  have limit : UInt32.size = 4294967296 := rfl
  have fits := a.isLt
  refine ext_toNat ?_
  rw [ofOctets, toNat_ofNat, limit]
  omega

theorem not_mem_print {c : Char} (other : Text.isDigit c = false) (noDot : c ≠ '.') (a : Address) :
    c ∉ a.print := by
  simp [print, octets, List.intercalate, List.intersperse, Text.not_mem_decimal other, noDot]

theorem ofChars?_print {allowed : List Char → Bool} (each : ∀ n, allowed (Text.decimal n) = true)
    (a : Address) : ofChars? allowed a.print = some a := by
  have pieces : Text.splitOn '.' a.print = a.octets.map Text.decimal := by
    refine Text.splitOn_intercalate (by simp [octets]) fun piece member => ?_
    obtain ⟨n, -, rfl⟩ := List.mem_map.mp member
    exact Text.not_mem_decimal rfl n
  have small := a.octets_lt
  simp only [octets, List.forall_mem_cons] at small
  obtain ⟨first, second, third, fourth, -⟩ := small
  rw [ofChars?, pieces]
  simp only [octets, List.map_cons, List.map_nil, List.all_cons, List.all_nil, each, Bool.and_true,
    if_true, octet?_decimal first, octet?_decimal second, octet?_decimal third,
    octet?_decimal fourth]
  exact congrArg some a.ofOctets_octets

theorem read?_toString (a : Address) : Address.read? a.toString = some a := by
  rw [Address.read?, toString, String.toList_ofList, ofChars?_print noLeadingZero_decimal]

end Address

namespace SocketAddress

theorem read?_toString (s : SocketAddress) : SocketAddress.read? s.toString = some s := by
  have pieces : Text.splitOn ':' s.print = [s.address.print, Text.decimal s.port.toNat] :=
    Text.splitOn_pair (Address.not_mem_print rfl (by decide) s.address) (Text.not_mem_decimal rfl _)
  have port : (Text.natural? (Text.decimal s.port.toNat)).filter (· < UInt16.size)
      = some s.port.toNat := by
    rw [Text.natural?_decimal, Option.filter_some, if_pos (by simpa using s.port.toNat_lt)]
  rw [SocketAddress.read?, toString, String.toList_ofList, pieces]
  simp only [Address.ofChars?_print Address.noLeadingZero_decimal, port]
  rw [Option.bind_eq_bind, Option.bind_some, Option.bind_eq_bind, Option.bind_some,
    UInt16.ofNat_toNat]
  rfl

end SocketAddress

namespace Network

theorem read?_toString (net : Network) : Network.read? net.toString = some net := by
  have pieces : Text.splitOn '/' net.print = [net.address.print, Text.decimal net.length] :=
    Text.splitOn_pair (Address.not_mem_print rfl (by decide) net.address)
      (Text.not_mem_decimal rfl net.length)
  have bounded := net.length_le
  have short : (Text.decimal net.length).length ≤ 2 :=
    (Nat.length_toDigits_le_iff (by decide) (by decide)).mpr (by omega)
  rw [Network.read?, toString, String.toList_ofList, pieces]
  simp [Address.ofChars?_print, short, Text.natural?_decimal, bounded]

end Network

/-! ### Forms -/

@[simp] theorem writable_address (a : Address) : (write a).Writable := .text _

@[simp] theorem writable_socketAddress (s : SocketAddress) : (write s).Writable := .text _

@[simp] theorem writable_network (net : Network) : (write net).Writable := .text _

instance : ReadsBack Address := ⟨fun a _ => a.read?_toString⟩

instance : ReadsBack SocketAddress := ⟨fun s _ => s.read?_toString⟩

instance : ReadsBack Network := ⟨fun net _ => net.read?_toString⟩

end RelayMesh
