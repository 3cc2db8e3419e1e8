import RelayMesh.Draft
import RelayMesh.Draft.QuotedText
import RelayMesh.Text.Utf8

/-!
Drafts from text. The name of a field must stand on one line with its colon, and not too far from
it. Between the parts of lists and objects any blanks and line breaks may stand, outside of them no
tab at the beginning of a line. Each nested value uses up fuel, and a text holds no more values than
characters.
-/

namespace RelayMesh.Draft

def skipGap (cs : List Char) : List Char :=
  cs.dropWhile isGap

def isWord (word : List Char) : Bool :=
  word ∈ ["null".toList, "true".toList, "false".toList] || Decimal.isLiteral word

def isWordChar (c : Char) : Bool :=
  c.isAlphanum || c == '-' || c == '+' || c == '.'

def readWord (cs : List Char) : Option (Draft × List Char) :=
  let word := cs.takeWhile isWordChar
  if isWord word then some (.word (String.ofList word), cs.dropWhile isWordChar) else none

/-- The largest distance in bytes from the opening quote of a name to its colon. -/
def maxNameRoom : Nat := 1024

def readName (cs : List Char) : Option (String × List Char) := do
  let (spelling, rest) ← splitQuoted [] cs
  let name ← decode? spelling
  let room := Text.Utf8.byteCount spelling + 2 + (rest.takeWhile isBlank).length
  match rest.dropWhile isBlank with
  | ':' :: rest =>
    if room ≤ maxNameRoom ∧ spelling.all (!isBreak ·) then some (name, rest) else none
  | _ => none

mutual

def readDraft : Nat → List Char → Option (Draft × List Char)
  | 0, _ => none
  | fuel + 1, cs =>
    match cs with
    | '"' :: rest => do
      let (spelling, rest) ← splitQuoted [] rest
      some (.text (← decode? spelling), rest)
    | '[' :: rest =>
      match skipGap rest with
      | ']' :: rest => some (.list [], rest)
      | rest => readItems fuel [] rest
    | '\x7b' :: rest =>
      match skipGap rest with
      | '\x7d' :: rest => some (.object [], rest)
      | rest => readFields fuel [] rest
    | _ => readWord cs

def readItems : Nat → List Draft → List Char → Option (Draft × List Char)
  | 0, _, _ => none
  | fuel + 1, done, cs =>
    match readDraft fuel cs with
    | none => none
    | some (item, rest) =>
      match skipGap rest with
      | ',' :: rest => readItems fuel (item :: done) (skipGap rest)
      | ']' :: rest => some (.list (item :: done).reverse, rest)
      | _ => none

def readFields : Nat → List (String × Draft) → List Char → Option (Draft × List Char)
  | 0, _, _ => none
  | fuel + 1, done, cs =>
    match cs with
    | '"' :: rest =>
      match readName rest with
      | none => none
      | some (name, rest) =>
        match readDraft fuel (skipGap rest) with
        | none => none
        | some (value, rest) =>
          match skipGap rest with
          | ',' :: rest => readFields fuel ((name, value) :: done) (skipGap rest)
          | '\x7d' :: rest => some (.object ((name, value) :: done).reverse, rest)
          | _ => none
    | _ => none

end

def isMargin (c : Char) : Bool :=
  c == ' ' || isBreak c

/-- Whether nothing of importance follows a whole draft. Its last line may end in tabs. Any gap
behind a word counts as a part of it. -/
def isEnd (d : Draft) (rest : List Char) : Bool :=
  match d with
  | .word _ => rest.all isGap
  | _ => (rest.dropWhile isBlank).all isMargin

def ofChars? (cs : List Char) : Option Draft :=
  match readDraft (cs.length + 1) (cs.dropWhile isMargin) with
  | some (d, rest) => if d.isEnd rest then some d else none
  | none => none

def isPermitted (c : Char) : Bool :=
  isGap c || (0x20 ≤ c.toNat && c.toNat < 0x7F)
    || (0xA0 ≤ c.toNat && c.toNat ≠ 0xFFFE && c.toNat ≠ 0xFFFF)

def fileChars (text : String) : List Char :=
  match text.toList with
  | '\ufeff' :: '\ufeff' :: rest => rest
  | '\ufeff' :: rest => rest
  | cs => cs

def isBlankFile (text : String) : Bool :=
  (fileChars text).all isMargin

def ofFile? (text : String) : Option Draft :=
  let cs := fileChars text
  if cs.all isPermitted then ofChars? cs else none

end RelayMesh.Draft
