import RelayMesh.Binary64

/-!
The shortest decimal that reads back to a given number: of all decimals inside the interval that
rounds to it, one with the fewest digits, and of those the nearest to the number. All comparisons
are exact, in quarters of the unit `2 ^ -1074`.
-/

namespace RelayMesh

/-- The value `digits * 10 ^ exponent`. -/
structure Decimal where
  digits : Nat
  exponent : Int
deriving DecidableEq, Inhabited

inductive Tie where
  | toEven
  | up
deriving DecidableEq

namespace Decimal

/-- The decimals that round to a number lie between `low` and `high`, in quarters of the unit;
the ends belong to it when the significand is even. -/
structure Interval where
  low : Nat
  value : Nat
  high : Nat
  closed : Bool

/-- The interval around a finite non-zero number. Below a power of two the neighbour is only half
as far away as above it. -/
def Interval.around (x : Binary64) : Interval :=
  let step := Nat.pow 2 x.scale
  let below := if x.significand = Binary64.hiddenBit ∧ 0 < x.scale then 1 else 2
  ⟨(4 * x.significand - below) * step, 4 * x.significand * step,
    (4 * x.significand + 2) * step, x.significand % 2 = 0⟩

def Interval.holds (i : Interval) (num den : Nat) : Bool :=
  if i.closed then i.low * den ≤ num && num ≤ i.high * den
  else i.low * den < num && num < i.high * den

def quartersInOne : Nat := 4 * Binary64.unitsInOne

/-- The greatest `e` with `10 ^ e` at most the value, for a value given in quarters. No positive
number is below `10 ^ -324`. -/
def leadingExponent (quarters : Nat) : Int :=
  let scaled := quarters * Nat.pow 10 324 / quartersInOne
  ((Nat.toDigits 10 scaled).length : Int) - 325

/-- One grid of decimals, `digits * 10 ^ exponent`, tried at the two neighbours of the value. -/
def onGrid? (tie : Tie) (i : Interval) (exponent : Int) : Option Decimal :=
  let num := i.value * Nat.pow 10 (-exponent).toNat
  let den := quartersInOne * Nat.pow 10 exponent.toNat
  let lower := num / den
  let step := Nat.pow 10 exponent.toNat * quartersInOne
  let shrink := Nat.pow 10 (-exponent).toNat
  let inside (d : Nat) : Bool := i.holds (d * step) shrink
  let twice := 2 * (num % den)
  let nearer :=
    if twice < den then lower
    else if den < twice then lower + 1
    else match tie with
      | .up => lower + 1
      | .toEven => if lower % 2 = 0 then lower else lower + 1
  if inside lower && inside (lower + 1) then some ⟨nearer, exponent⟩
  else if inside lower then some ⟨lower, exponent⟩
  else if inside (lower + 1) then some ⟨lower + 1, exponent⟩
  else none

/-- The first grid with a hit, from one significant digit on. Seventeen digits always suffice. -/
def search (tie : Tie) (i : Interval) (leading : Int) : Nat → Nat → Decimal
  | 0, _ => ⟨0, 0⟩
  | fuel + 1, length =>
    match onGrid? tie i (leading - length) with
    | some d => d
    | none => search tie i leading fuel (length + 1)

def trimZeros : Nat → Decimal → Decimal
  | 0, d => d
  | fuel + 1, d =>
    if d.digits ≠ 0 ∧ d.digits % 10 = 0 then trimZeros fuel ⟨d.digits / 10, d.exponent + 1⟩ else d

/-- The shortest decimal that reads back to the magnitude of a finite number. -/
def shortest (tie : Tie) (x : Binary64) : Decimal :=
  if x.isZero then ⟨0, 0⟩
  else
    let i := Interval.around x
    trimZeros 20 (search tie i (leadingExponent i.value) 17 0)

end Decimal

end RelayMesh
