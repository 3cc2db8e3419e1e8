import RelayMesh.Binary64
import RelayMesh.Text.Basic

namespace RelayMesh.Decimal

def splitSign : List Char → Bool × List Char
  | '-' :: rest => (true, rest)
  | '+' :: rest => (false, rest)
  | cs => (false, cs)

/-- An exponent with its letter, up to the end of the text; no letter means zero. -/
def exponent? : List Char → Option Int
  | [] => some 0
  | c :: rest =>
    if c = 'e' ∨ c = 'E' then
      let (negative, digits) := splitSign rest
      (Text.natural? digits).map fun n => if negative then -(n : Int) else n
    else none

def unsignedDecimal? (cs : List Char) : Option (Nat × Int) :=
  let whole := cs.takeWhile Text.isDigit
  let afterWhole := cs.dropWhile Text.isDigit
  let (fraction, rest) := match afterWhole with
    | '.' :: more => (more.takeWhile Text.isDigit, more.dropWhile Text.isDigit)
    | other => ([], other)
  if whole = [] ∧ fraction = [] then none
  else (exponent? rest).map fun e => (Text.digitsValue (whole ++ fraction), e - fraction.length)

def named? (negative : Bool) (name : String) : Option Binary64 :=
  if name = "inf" ∨ name = "infinity" then some (.infinity negative)
  else if name = "nan" then some (.nan negative)
  else none

def ofChars? (cs : List Char) : Option Binary64 :=
  let (negative, body) := splitSign cs
  match named? negative (String.ofList (body.map Char.toLower)) with
  | some x => some x
  | none => (unsignedDecimal? body).map fun (digits, e) => .ofDecimal negative digits e

def read? (s : String) : Option Binary64 :=
  ofChars? s.toList

def afterDigits? (cs : List Char) : Option (List Char) :=
  if cs.takeWhile Text.isDigit = [] then none else some (cs.dropWhile Text.isDigit)

def afterMinus : List Char → List Char
  | '-' :: rest => rest
  | cs => cs

def afterWhole? : List Char → Option (List Char)
  | '0' :: rest => some rest
  | cs => afterDigits? cs

def afterFraction? : List Char → Option (List Char)
  | '.' :: rest => afterDigits? rest
  | cs => some cs

def afterExponent? : List Char → Option (List Char)
  | 'e' :: rest => afterDigits? (splitSign rest).2
  | 'E' :: rest => afterDigits? (splitSign rest).2
  | cs => some cs

def isLiteral (cs : List Char) : Bool :=
  (afterWhole? (afterMinus cs) >>= afterFraction? >>= afterExponent?) == some []

def isLiteralChar (c : Char) : Bool :=
  Text.isDigit c || c == '-' || c == '+' || c == '.' || c == 'e' || c == 'E'

def integer? : List Char → Option Int
  | '-' :: digits => (Text.natural? digits).map fun n => -(n : Int)
  | digits => (Text.natural? digits).map fun n => (n : Int)

end RelayMesh.Decimal
