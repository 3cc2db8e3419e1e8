import RelayMesh.Decimal.Reading
import RelayMesh.Document
import RelayMesh.Text.Basic

/-!
Documents from text. A number without point and exponent is an integer when 64 bits hold it, signed
or not; every other number is a float. An object with two fields of one name is refused. Each nested
value uses up fuel, and a text holds no more values than characters.
-/

namespace RelayMesh.Document

def isSpace (c : Char) : Bool :=
  c == ' ' || c == '\n' || c == '\r' || c == '\t'

def skipSpace (cs : List Char) : List Char :=
  cs.dropWhile isSpace

def codeUnit? (a b c d : Char) : Option Nat :=
  Text.hexadecimal? [a, b, c, d]

def isUpperSurrogate (unit : Nat) : Bool :=
  0xD800 ≤ unit && unit < 0xDC00

def isLowerSurrogate (unit : Nat) : Bool :=
  0xDC00 ≤ unit && unit < 0xE000

def simpleEscape? (c : Char) : Option Char :=
  match c with
  | '"' => some '"'
  | '\\' => some '\\'
  | '/' => some '/'
  | 'b' => some '\x08'
  | 'f' => some '\x0c'
  | 'n' => some '\n'
  | 'r' => some '\r'
  | 't' => some '\t'
  | _ => none

/-- The rest of a text up to its closing quote; `done` holds the characters so far, the last one
first. An escaped upper surrogate takes a lower one along; neither stands alone. -/
def readTextFrom (done : List Char) : List Char → Option (String × List Char)
  | [] => none
  | '"' :: rest => some (String.ofList done.reverse, rest)
  | '\\' :: 'u' :: a :: b :: c :: d :: rest =>
    match codeUnit? a b c d with
    | none => none
    | some unit =>
      if isUpperSurrogate unit then
        match rest with
        | '\\' :: 'u' :: a :: b :: c :: d :: rest =>
          match codeUnit? a b c d with
          | none => none
          | some low =>
            if isLowerSurrogate low then
              readTextFrom
                (Char.ofNat (0x10000 + (unit - 0xD800) * 0x400 + (low - 0xDC00)) :: done) rest
            else none
        | _ => none
      else if isLowerSurrogate unit then none
      else readTextFrom (Char.ofNat unit :: done) rest
  | '\\' :: c :: rest =>
    match simpleEscape? c with
    | some c => readTextFrom (c :: done) rest
    | none => none
  | c :: rest => if c.toNat < 0x20 then none else readTextFrom (c :: done) rest

def readText (cs : List Char) : Option (String × List Char) :=
  readTextFrom [] cs

/-- An integer as a document, if 64 bits hold it. A negative zero is none, since no integer has its
sign. -/
def ofInteger? (literal : List Char) : Option Document := do
  let i ← Decimal.integer? literal
  if literal = ['-', '0'] then none
  else if -9223372036854775808 ≤ i ∧ i < 18446744073709551616 then some (.int i)
  else none

/-- The float of a literal. What is too large for a finite one is refused. -/
def ofFloat? (literal : List Char) : Option Document :=
  ((Decimal.ofChars? literal).filter (·.isFinite)).map .float

def readNumber (cs : List Char) : Option (Document × List Char) :=
  let literal := cs.takeWhile Decimal.isLiteralChar
  if Decimal.isLiteral literal then
    ((ofInteger? literal).or (ofFloat? literal)).map fun d =>
      (d, cs.dropWhile Decimal.isLiteralChar)
  else none

def readWord (word : String) (d : Document) (cs : List Char) : Option (Document × List Char) :=
  (word.toList.isPrefixOf? cs).map fun rest => (d, rest)

mutual

def readValue : Nat → List Char → Option (Document × List Char)
  | 0, _ => none
  | fuel + 1, cs =>
    match cs with
    | '"' :: rest => (readText rest).map fun (s, rest) => (.text s, rest)
    | '[' :: rest =>
      match skipSpace rest with
      | ']' :: rest => some (.list [], rest)
      | rest => readItems fuel [] rest
    | '\x7b' :: rest =>
      match skipSpace rest with
      | '\x7d' :: rest => some (.object [], rest)
      | rest => readFields fuel [] rest
    | 'n' :: _ => readWord "null" .null cs
    | 't' :: _ => readWord "true" (.bool true) cs
    | 'f' :: _ => readWord "false" (.bool false) cs
    | _ => readNumber cs

def readItems : Nat → List Document → List Char → Option (Document × List Char)
  | 0, _, _ => none
  | fuel + 1, done, cs =>
    match readValue fuel cs with
    | none => none
    | some (item, rest) =>
      match skipSpace rest with
      | ',' :: rest => readItems fuel (item :: done) (skipSpace rest)
      | ']' :: rest => some (.list (item :: done).reverse, rest)
      | _ => none

def readFields : Nat → List (String × Document) → List Char → Option (Document × List Char)
  | 0, _, _ => none
  | fuel + 1, done, cs =>
    match cs with
    | '"' :: rest =>
      match readText rest with
      | none => none
      | some (name, rest) =>
        match skipSpace rest with
        | ':' :: rest =>
          match readValue fuel (skipSpace rest) with
          | none => none
          | some (value, rest) =>
            if done.any (·.1 == name) then none
            else
              match skipSpace rest with
              | ',' :: rest => readFields fuel ((name, value) :: done) (skipSpace rest)
              | '\x7d' :: rest => some (.object ((name, value) :: done).reverse, rest)
              | _ => none
        | _ => none
    | _ => none

end

/-- The document that a whole list of characters denotes, spaces around it aside. -/
def ofChars? (cs : List Char) : Option Document :=
  match readValue (cs.length + 1) (skipSpace cs) with
  | some (d, rest) => if skipSpace rest = [] then some d else none
  | none => none

def read? (s : String) : Option Document :=
  ofChars? s.toList

end RelayMesh.Document
