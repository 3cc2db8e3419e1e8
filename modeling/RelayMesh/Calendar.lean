import RelayMesh.Decimal.Reading
import RelayMesh.Text.Basic

namespace RelayMesh

def isLeapYear (year : Int) : Bool :=
  year % 4 == 0 && (year % 100 != 0 || year % 400 == 0)

def daysInMonth (year : Int) (month : Nat) : Nat :=
  if month = 2 then if isLeapYear year then 29 else 28
  else if [4, 6, 9, 11].contains month then 30
  else 31

def IsDate (year : Int) (month day : Nat) : Prop :=
  (-9999 ≤ year ∧ year ≤ 9999) ∧ (1 ≤ month ∧ month ≤ 12) ∧ 1 ≤ day ∧ day ≤ daysInMonth year month

instance (year : Int) (month day : Nat) : Decidable (IsDate year month day) :=
  inferInstanceAs (Decidable (_ ∧ _))

structure Date where
  year : Int
  month : Nat
  day : Nat
  isDate : IsDate year month day
deriving DecidableEq

namespace Date

def of? (year : Int) (month day : Nat) : Option Date :=
  if h : IsDate year month day then some ⟨year, month, day, h⟩ else none

def le (a b : Date) : Bool :=
  a.year < b.year || (a.year == b.year &&
    (a.month < b.month || (a.month == b.month && a.day ≤ b.day)))

def later (a b : Date) : Date :=
  if a.le b then b else a

def latest? : List Date → Option Date
  | [] => none
  | d :: rest => some (rest.foldl later d)

def keyChars (d : Date) : List Char :=
  (if d.year < 0 then ['-'] else []) ++ Text.padded 4 d.year.natAbs ++ Text.padded 2 d.month
    ++ Text.padded 2 d.day

def key (d : Date) : String :=
  String.ofList d.keyChars

/-- The date with a given key. A sign may stand in front of every year. -/
def ofKeyChars? (cs : List Char) : Option Date :=
  let (negative, digits) := Decimal.splitSign cs
  if digits.length = 8 then do
    let year ← Text.natural? (digits.take 4)
    let month ← Text.natural? ((digits.drop 4).take 2)
    let day ← Text.natural? (digits.drop 6)
    of? (if negative then -(year : Int) else year) month day
  else none

def ofKey? (key : String) : Option Date :=
  ofKeyChars? key.toList

end Date

end RelayMesh
