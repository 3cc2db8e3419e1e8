/-!
Binary64 numbers as their 64 bits. The magnitude of a finite number is a natural multiple of
`2 ^ -1074`, the least positive number, so exact values are natural numbers of such units. Every
operation computes the exact quotient of units and then rounds once, to the nearest number, a tie
going to the even significand.
-/

namespace RelayMesh

/-- A binary64 number, given by its bits. Equality is equality of bits. -/
structure Binary64 where
  bits : UInt64
deriving DecidableEq, Inhabited

/-- The integer nearest to `num / den`, a tie going to the even neighbour. -/
def nearestEven (num den : Nat) : Nat :=
  let quotient := num / den
  let twice := 2 * (num % den)
  if twice < den then quotient
  else if den < twice then quotient + 1
  else if quotient % 2 = 0 then quotient else quotient + 1

namespace Binary64

def signBit : Nat := Nat.pow 2 63

/-- The bit in front of the 52 bits of the fraction. The significand has it, and the word has not. -/
def hiddenBit : Nat := Nat.pow 2 52

def isNegative (x : Binary64) : Bool :=
  decide (signBit ≤ x.bits.toNat)

def magnitudeBits (x : Binary64) : Nat :=
  x.bits.toNat % signBit

def infinityBits : Nat := 2047 * hiddenBit

def isFinite (x : Binary64) : Bool :=
  decide (x.magnitudeBits < infinityBits)

def isNaN (x : Binary64) : Bool :=
  decide (infinityBits < x.magnitudeBits)

def isInfinite (x : Binary64) : Bool :=
  x.magnitudeBits == infinityBits

def isZero (x : Binary64) : Bool :=
  x.magnitudeBits == 0

def ofMagnitude (negative : Bool) (magnitude : Nat) : Binary64 :=
  ⟨UInt64.ofNat (magnitude + if negative then signBit else 0)⟩

def zero : Binary64 := ⟨0⟩

def infinity (negative : Bool) : Binary64 := ofMagnitude negative infinityBits

def nan (negative : Bool) : Binary64 := ofMagnitude negative (infinityBits + hiddenBit / 2)

/-- The integral significand of a finite number: the hidden bit stands in front of all but the
least exponent. -/
def significand (x : Binary64) : Nat :=
  if x.magnitudeBits < hiddenBit then x.magnitudeBits
  else hiddenBit + x.magnitudeBits % hiddenBit

/-- The power of two that scales the significand to units of `2 ^ -1074`. -/
def scale (x : Binary64) : Nat :=
  x.magnitudeBits / hiddenBit - 1

def unitsInOne : Nat := Nat.pow 2 1074

/-- The magnitude of a finite number in units of `2 ^ -1074`. -/
def units (x : Binary64) : Nat :=
  x.significand * Nat.pow 2 x.scale

/-- The value of a finite number in units of `2 ^ -1074`. Both zeros have the value zero. -/
def signedUnits (x : Binary64) : Int :=
  if x.isNegative then -(x.units : Int) else x.units

/-- The number nearest to `num / den` units. The shift leaves 53 significant bits; a carry out
of the significand moves into the exponent by itself, and what is too large becomes infinite. -/
def ofUnits (negative : Bool) (num den : Nat) : Binary64 :=
  let shift := (num / den).log2 - 52
  let magnitude := shift * hiddenBit + nearestEven num (den * Nat.pow 2 shift)
  ofMagnitude negative (min magnitude infinityBits)

def ofRatio (negative : Bool) (num den : Nat) : Binary64 :=
  ofUnits negative (num * unitsInOne) den

def ofNat (n : Nat) : Binary64 :=
  ofRatio false n 1

def ofInt (i : Int) : Binary64 :=
  ofRatio (decide (i < 0)) i.natAbs 1

/-- The number nearest to `digits * 10 ^ exponent`. Exponents beyond the range of finite numbers
are settled before any power is formed. -/
def ofDecimal (negative : Bool) (digits : Nat) (exponent : Int) : Binary64 :=
  if digits = 0 then ofMagnitude negative 0
  else if 310 < exponent then infinity negative
  else if 0 ≤ exponent then ofRatio negative (digits * Nat.pow 10 exponent.toNat) 1
  else if exponent + (digits.log2 + 1 : Nat) < -330 then ofMagnitude negative 0
  else ofRatio negative digits (Nat.pow 10 (-exponent).toNat)

end Binary64

end RelayMesh

namespace RelayMesh.Binary64

/-- The magnitude bits with their sign: monotone in the value, and zero at both zeros. -/
def numericKey (x : Binary64) : Int :=
  if x.isNegative then -(x.magnitudeBits : Int) else x.magnitudeBits

/-- Numeric `<`, false as soon as one side is a NaN. -/
def lt (x y : Binary64) : Bool :=
  !x.isNaN && !y.isNaN && decide (x.numericKey < y.numericKey)

def le (x y : Binary64) : Bool :=
  !x.isNaN && !y.isNaN && decide (x.numericKey ≤ y.numericKey)

def totalKey (x : Binary64) : Int :=
  if x.isNegative then -(x.magnitudeBits : Int) - 1 else x.magnitudeBits

def totalLe (x y : Binary64) : Bool :=
  decide (x.totalKey ≤ y.totalKey)

end RelayMesh.Binary64
