import Mathlib.Tactic.IntervalCases
import RelayMesh.Text.Utf8

namespace RelayMesh.Text.Utf8

def Decoder.between (units : List (Option Char)) : Decoder :=
  ⟨units, none⟩

theorem feed_whole (units : List (Option Char)) {b : Nat} (small : b < 0x80) :
    (Decoder.between units).feed (UInt8.ofNat b) = .between (some (Char.ofNat b) :: units) := by
  have byte : (UInt8.ofNat b).toNat = b := Nat.mod_eq_of_lt (by omega)
  simp only [Decoder.feed, Decoder.between, advance, beginUnit, start, byte, if_pos small]
  rfl

theorem feed_lead (units : List (Option Char)) {byte : UInt8} {p : Pending}
    (lead : start byte = .pending p) :
    (Decoder.between units).feed byte = ⟨units, some p⟩ := by
  simp only [Decoder.feed, Decoder.between, advance, beginUnit, lead]
  rfl

theorem feed_more (units : List (Option Char)) {low high code bits : Nat} (owed : Nat)
    (lower : low ≤ bits + 128) (upper : bits + 128 ≤ high) (small : bits < 64) :
    (Decoder.mk units (some ⟨owed + 2, low, high, code⟩)).feed (UInt8.ofNat (bits + 128)) =
      ⟨units, some ⟨owed + 1, 0x80, 0xBF, code * 64 + bits⟩⟩ := by
  have byte : (UInt8.ofNat (bits + 128)).toNat = bits + 128 := Nat.mod_eq_of_lt (by omega)
  have six : (bits + 128) % 64 = bits := by omega
  simp only [Decoder.feed, advance, byte, if_pos (And.intro lower upper), six]
  rw [if_neg (by omega)]
  rfl

theorem feed_last (units : List (Option Char)) {low high code bits : Nat}
    (lower : low ≤ bits + 128) (upper : bits + 128 ≤ high) (small : bits < 64) :
    (Decoder.mk units (some ⟨1, low, high, code⟩)).feed (UInt8.ofNat (bits + 128)) =
      .between (some (Char.ofNat (code * 64 + bits)) :: units) := by
  have byte : (UInt8.ofNat (bits + 128)).toNat = bits + 128 := Nat.mod_eq_of_lt (by omega)
  have six : (bits + 128) % 64 = bits := by omega
  simp only [Decoder.feed, advance, byte, if_pos (And.intro lower upper), six]
  rw [if_pos (by decide)]
  rfl

theorem start_two {k : Nat} (lower : 2 ≤ k) (upper : k < 32) :
    start (UInt8.ofNat (k + 192)) = .pending ⟨1, 0x80, 0xBF, k⟩ := by
  have byte : (UInt8.ofNat (k + 192)).toNat = k + 192 := Nat.mod_eq_of_lt (by omega)
  simp only [start, byte]
  rw [if_neg (by omega), if_pos (by omega), show (k + 192) % 0x20 = k by omega]

theorem start_three {k : Nat} (upper : k < 16) :
    start (UInt8.ofNat (k + 224)) = .pending ⟨2, if k = 0 then 0xA0 else 0x80,
      if k = 13 then 0x9F else 0xBF, k⟩ := by
  interval_cases k <;> rfl

theorem start_four {k : Nat} (upper : k < 5) :
    start (UInt8.ofNat (k + 240)) = .pending ⟨3, if k = 0 then 0x90 else 0x80,
      if k = 4 then 0x8F else 0xBF, k⟩ := by
  interval_cases k <;> rfl

theorem feed_char (units : List (Option Char)) (c : Char) :
    (String.utf8EncodeChar c).foldl Decoder.feed (.between units) = .between (some c :: units) := by
  have valid : c.val.toNat < 0xD800 ∨ 0xDFFF < c.val.toNat ∧ c.val.toNat < 0x110000 := c.valid
  have whole : Char.ofNat c.val.toNat = c := Char.ofNat_toNat c
  rw [String.utf8EncodeChar]
  generalize c.val.toNat = v at valid whole
  split
  · rw [List.foldl_cons, List.foldl_nil, feed_whole units (by omega), whole]
  · split
    · have parts : v / 64 * 64 + v % 64 = v := by omega
      rw [List.foldl_cons, List.foldl_cons, List.foldl_nil, Nat.mod_eq_of_lt (by omega),
        feed_lead units (start_two (by omega) (by omega)),
        feed_last units (by omega) (by omega) (by omega), parts, whole]
    · split
      · have parts : (v / 4096 * 64 + v / 64 % 64) * 64 + v % 64 = v := by omega
        rw [List.foldl_cons, List.foldl_cons, List.foldl_cons, List.foldl_nil,
          Nat.mod_eq_of_lt (by omega), feed_lead units (start_three (by omega)),
          feed_more units 0 (by split <;> omega) (by split <;> omega) (by omega),
          feed_last units (by omega) (by omega) (by omega), parts, whole]
      · have parts : ((v / 262144 * 64 + v / 4096 % 64) * 64 + v / 64 % 64) * 64 + v % 64 = v := by
          omega
        rw [List.foldl_cons, List.foldl_cons, List.foldl_cons, List.foldl_cons, List.foldl_nil,
          Nat.mod_eq_of_lt (by omega), feed_lead units (start_four (by omega)),
          feed_more units 1 (by split <;> omega) (by split <;> omega) (by omega),
          feed_more units 0 (by omega) (by omega) (by omega),
          feed_last units (by omega) (by omega) (by omega), parts, whole]

theorem feed_chars (cs : List Char) (units : List (Option Char)) :
    (cs.flatMap String.utf8EncodeChar).foldl Decoder.feed (.between units) =
      .between ((cs.map some).reverse ++ units) := by
  induction cs generalizing units with
  | nil => rfl
  | cons c cs ih =>
    rw [List.flatMap_cons, List.foldl_append, feed_char, ih]
    simp

theorem toList_loop (bytes : ByteArray) (i : Nat) (taken : List UInt8) :
    ByteArray.toList.loop bytes i taken = taken.reverse ++ bytes.data.toList.drop i := by
  induction i, taken using ByteArray.toList.loop.induct bytes with
  | case1 i taken inside ih =>
    have next : bytes.data.toList.drop i = bytes.get! i :: bytes.data.toList.drop (i + 1) := by
      rw [List.drop_eq_getElem_cons (by simpa using inside)]
      simp [ByteArray.get!, inside]
    rw [ByteArray.toList.loop, if_pos inside, ih, next]
    simp
  | case2 i taken outside =>
    rw [ByteArray.toList.loop, if_neg outside, List.drop_eq_nil_of_le, List.append_nil]
    simpa using outside

theorem encode_eq (s : String) : encode s = s.toList.flatMap String.utf8EncodeChar := by
  have bytes : s.toUTF8 = (s.toList.flatMap String.utf8EncodeChar).toByteArray := by
    rw [String.toUTF8_eq_toByteArray, ← List.utf8Encode, ← String.toByteArray_ofList,
      String.ofList_toList]
  rw [encode, ByteArray.toList, toList_loop, bytes, List.toList_data_toByteArray]
  rfl

theorem decode?_encode (s : String) : decode? (encode s) = some s.toList := by
  have fed := feed_chars s.toList []
  have all : (s.toList.map some).mapM id = some s.toList := by
    rw [List.mapM_map]
    exact List.mapM_pure.trans (congrArg some (List.map_id _))
  rw [List.append_nil] at fed
  rw [decode?, units, encode_eq, show ({} : Decoder) = .between [] from rfl, fed]
  simpa [Decoder.between] using all

end RelayMesh.Text.Utf8
