/-!
UTF-8, one byte at a time. The state holds the pending sequence; a byte that cannot continue it ends
it as invalid and is then read afresh, so an invalid sequence is a longest beginning of a valid one,
or a single byte. A line feed is never part of a sequence, so lines can be decoded one by one.
-/

namespace RelayMesh.Text.Utf8

def replacement : Char := '\ufffd'

structure Pending where
  owed : Nat
  low : Nat
  high : Nat
  code : Nat
deriving DecidableEq

inductive Start where
  | whole (c : Char)
  | pending (p : Pending)
  | invalid

def start (byte : UInt8) : Start :=
  let b := byte.toNat
  if b < 0x80 then .whole (Char.ofNat b)
  else if 0xC2 ≤ b ∧ b ≤ 0xDF then .pending ⟨1, 0x80, 0xBF, b % 0x20⟩
  else if b = 0xE0 then .pending ⟨2, 0xA0, 0xBF, b % 0x10⟩
  else if b = 0xED then .pending ⟨2, 0x80, 0x9F, b % 0x10⟩
  else if 0xE1 ≤ b ∧ b ≤ 0xEF then .pending ⟨2, 0x80, 0xBF, b % 0x10⟩
  else if b = 0xF0 then .pending ⟨3, 0x90, 0xBF, b % 0x08⟩
  else if b = 0xF4 then .pending ⟨3, 0x80, 0x8F, b % 0x08⟩
  else if 0xF1 ≤ b ∧ b ≤ 0xF3 then .pending ⟨3, 0x80, 0xBF, b % 0x08⟩
  else .invalid

/-- The units a byte completes, and the state after it. A unit is a character, or `none` for an
invalid sequence. -/
def beginUnit (byte : UInt8) : List (Option Char) × Option Pending :=
  match start byte with
  | .whole c => ([some c], none)
  | .pending p => ([], some p)
  | .invalid => ([none], none)

def advance (state : Option Pending) (byte : UInt8) : List (Option Char) × Option Pending :=
  match state with
  | none => beginUnit byte
  | some p =>
    if p.low ≤ byte.toNat ∧ byte.toNat ≤ p.high then
      let code := p.code * 0x40 + byte.toNat % 0x40
      if p.owed ≤ 1 then ([some (Char.ofNat code)], none)
      else ([], some ⟨p.owed - 1, 0x80, 0xBF, code⟩)
    else
      let (units, next) := beginUnit byte
      (none :: units, next)

structure Decoder where
  units : List (Option Char) := []
  pending : Option Pending := none

def Decoder.feed (d : Decoder) (byte : UInt8) : Decoder :=
  let (units, pending) := advance d.pending byte
  ⟨units.reverse ++ d.units, pending⟩

def units (bytes : List UInt8) : List (Option Char) :=
  let d := bytes.foldl Decoder.feed {}
  (if d.pending.isSome then none :: d.units else d.units).reverse

def decodeLossy (bytes : List UInt8) : List Char :=
  (units bytes).map (·.getD replacement)

def decode? (bytes : List UInt8) : Option (List Char) :=
  (units bytes).mapM id

def byteCount (cs : List Char) : Nat :=
  cs.foldr (fun c n => c.utf8Size + n) 0

def encode (s : String) : List UInt8 :=
  s.toUTF8.toList

end RelayMesh.Text.Utf8
