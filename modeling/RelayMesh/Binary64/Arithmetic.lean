import RelayMesh.Binary64

namespace RelayMesh.Binary64

def neg (x : Binary64) : Binary64 :=
  ofMagnitude (!x.isNegative) x.magnitudeBits

/-- The number nearest to a whole number of units. A zero takes the given sign. -/
def ofSignedUnits (zeroNegative : Bool) (units : Int) : Binary64 :=
  if units = 0 then ofMagnitude zeroNegative 0
  else ofUnits (decide (units < 0)) units.natAbs 1

def add (x y : Binary64) : Binary64 :=
  if x.isNaN || y.isNaN then nan false
  else if x.isInfinite then
    if y.isInfinite && x.isNegative != y.isNegative then nan false else x
  else if y.isInfinite then y
  else ofSignedUnits (x.isNegative && y.isNegative) (x.signedUnits + y.signedUnits)

def sub (x y : Binary64) : Binary64 :=
  if y.isNaN then nan false else add x (neg y)

def mul (x y : Binary64) : Binary64 :=
  let negative := x.isNegative != y.isNegative
  if x.isNaN || y.isNaN then nan false
  else if x.isInfinite || y.isInfinite then
    if x.isZero || y.isZero then nan false else infinity negative
  else ofUnits negative (x.units * y.units) unitsInOne

def div (x y : Binary64) : Binary64 :=
  let negative := x.isNegative != y.isNegative
  if x.isNaN || y.isNaN then nan false
  else if x.isInfinite then
    if y.isInfinite then nan false else infinity negative
  else if y.isInfinite then ofMagnitude negative 0
  else if y.isZero then
    if x.isZero then nan false else infinity negative
  else ofUnits negative (x.units * unitsInOne) y.units

def sum (xs : List Binary64) : Binary64 :=
  xs.foldl add zero

/-- The greatest natural number at most `x`; zero for negative numbers and NaNs. -/
def floorNat (x : Binary64) : Nat :=
  if x.isNegative || !x.isFinite then 0 else x.units / unitsInOne

def ceilNat (x : Binary64) : Nat :=
  if x.isNegative || !x.isFinite then 0 else (x.units + unitsInOne - 1) / unitsInOne

/-- Values below zero become zero and values above one become one; a NaN stays. -/
def clampUnit (x : Binary64) : Binary64 :=
  if lt x zero then zero else if lt (ofNat 1) x then ofNat 1 else x

end RelayMesh.Binary64
