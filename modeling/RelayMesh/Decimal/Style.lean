import RelayMesh.Binary64
import RelayMesh.Decimal.Shortest
import RelayMesh.Text.Basic

namespace RelayMesh.Decimal

def fixed (places : Nat) (x : Binary64) : List Char :=
  let shift := Nat.pow 10 places
  let scaled := nearestEven (x.units * shift) Binary64.unitsInOne
  Text.decimal (scaled / shift) ++ '.' :: Text.padded places (scaled % shift)

def sixPlaces (x : Binary64) : String :=
  if x.isNaN then "NaN"
  else
    let body := if x.isInfinite then "inf".toList else fixed 6 x
    String.ofList (if x.isNegative then '-' :: body else body)

structure Style where
  /-- Decimal exponents from the first to below the second are written positionally; `none`
  writes all of them so. -/
  positional : Option (Int × Int)
  keepsFraction : Bool
  plusInExponent : Bool
  tie : Tie

def pointAt (before : Int) (digits : List Char) (keepsFraction : Bool) : List Char :=
  if before ≤ 0 then
    '0' :: '.' :: (List.replicate (-before).toNat '0' ++ digits)
  else if digits.length ≤ before.toNat then
    digits ++ List.replicate (before.toNat - digits.length) '0'
      ++ (if keepsFraction then ['.', '0'] else [])
  else
    digits.take before.toNat ++ '.' :: digits.drop before.toNat

def scientific (leading : Int) (digits : List Char) (plus : Bool) : List Char :=
  let mantissa := match digits with
    | [] => []
    | [d] => [d]
    | d :: rest => d :: '.' :: rest
  let sign := if leading < 0 then ['-'] else if plus then ['+'] else []
  mantissa ++ 'e' :: (sign ++ Text.decimal leading.natAbs)

def Style.layOut (style : Style) (d : Decimal) : List Char :=
  let digits := Text.decimal d.digits
  let before := (digits.length : Int) + d.exponent
  let positional := match style.positional with
    | none => true
    | some (first, last) => d.digits == 0 || (first ≤ before - 1 && before - 1 < last)
  if positional then pointAt before digits style.keepsFraction
  else scientific (before - 1) digits style.plusInExponent

def Style.render (style : Style) (x : Binary64) : List Char :=
  if x.isNaN then "NaN".toList
  else
    let body := if x.isInfinite then "inf".toList else style.layOut (shortest style.tie x)
    if x.isNegative then '-' :: body else body

/-- Numbers in a document: positional from `10 ^ -5` to below `10 ^ 16`, and always with a point
or an exponent, so that they stay apart from integers. -/
def documentStyle : Style where
  positional := some (-5, 16)
  keepsFraction := true
  plusInExponent := true
  tie := .toEven

def tableStyle : Style where
  positional := some (-5, 16)
  keepsFraction := true
  plusInExponent := false
  tie := .toEven

/-- Stored and announced baselines: never an exponent, and no fraction for whole numbers. -/
def plainStyle : Style where
  positional := none
  keepsFraction := false
  plusInExponent := false
  tie := .up

end RelayMesh.Decimal
