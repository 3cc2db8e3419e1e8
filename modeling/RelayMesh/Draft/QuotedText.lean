import RelayMesh.Text.Basic

/-!
Texts in double quotes within files. A line break in a text, with the blanks around it, is folded:
one break becomes a space, several lose the first of them. The separators of lines and paragraphs
are kept in any case. What is escaped stands for itself, and a backslash at the end of a line joins
the next one to it.
-/

namespace RelayMesh.Draft

def isBlank (c : Char) : Bool :=
  c == ' ' || c == '\t'

def isSeparator (c : Char) : Bool :=
  c == '\u2028' || c == '\u2029'

def isBreak (c : Char) : Bool :=
  c == '\n' || c == '\r' || c == '\x85' || isSeparator c

def isGap (c : Char) : Bool :=
  isBlank c || isBreak c

/-- The line breaks in a gap. A carriage return and a line feed are one break. All but separators
are alike. -/
def breaks : List Char → List Char
  | [] => []
  | '\r' :: '\n' :: rest => '\n' :: breaks rest
  | c :: rest =>
    if isSeparator c then c :: breaks rest
    else if isBreak c then '\n' :: breaks rest
    else breaks rest

def folded (gap : List Char) : List Char :=
  match breaks gap with
  | [] => gap
  | ['\n'] => [' ']
  | '\n' :: more => more
  | kept => kept

/-- Whether a line begins with the mark between two documents, which no text may contain. -/
def isMark : List Char → Bool
  | '-' :: '-' :: '-' :: c :: _ => isGap c
  | '.' :: '.' :: '.' :: c :: _ => isGap c
  | _ => false

def marksDocument (gap rest : List Char) : Bool :=
  gap.getLast?.all isBreak && isMark rest

def escaped? (c : Char) : Option Char :=
  match c with
  | '0' => some '\x00'
  | 'a' => some '\x07'
  | 'b' => some '\x08'
  | 't' => some '\t'
  | '\t' => some '\t'
  | 'n' => some '\n'
  | 'v' => some '\x0b'
  | 'f' => some '\x0c'
  | 'r' => some '\r'
  | 'e' => some '\x1b'
  | ' ' => some ' '
  | '"' => some '"'
  | '/' => some '/'
  | '\\' => some '\\'
  | 'N' => some '\x85'
  | '_' => some '\u00a0'
  | 'L' => some '\u2028'
  | 'P' => some '\u2029'
  | _ => none

def codeLength? (c : Char) : Option Nat :=
  match c with
  | 'x' => some 2
  | 'u' => some 4
  | 'U' => some 8
  | _ => none

/-- The character of a code point in a given number of digits; surrogates are none. -/
def coded? (length : Nat) (cs : List Char) : Option Char := do
  let n ← if length ≤ cs.length then Text.hexadecimal? (cs.take length) else none
  if n.isValidChar then some (Char.ofNat n) else none

def afterBreak : List Char → List Char
  | '\r' :: '\n' :: rest => rest
  | cs => cs.tail

/-- The text whose spelling is given; `done` holds the characters so far, the last one first. Every
step takes at least one character off, so `fuel` need not exceed their number. -/
def decodeFrom : Nat → List Char → List Char → Option (List Char)
  | _, done, [] => some done.reverse
  | 0, _, _ => none
  | fuel + 1, done, '\\' :: cs =>
    match cs with
    | [] => none
    | c :: rest =>
      if isBreak c then
        let gap := (afterBreak cs).takeWhile isGap
        let rest := (afterBreak cs).dropWhile isGap
        if marksDocument gap rest then none
        else decodeFrom fuel ((breaks gap).reverse ++ done) rest
      else match codeLength? c with
        | some length =>
          match coded? length rest with
          | some c => decodeFrom fuel (c :: done) (rest.drop length)
          | none => none
        | none =>
          match escaped? c with
          | some c => decodeFrom fuel (c :: done) rest
          | none => none
  | fuel + 1, done, c :: cs =>
    if isGap c then
      let gap := (c :: cs).takeWhile isGap
      let rest := (c :: cs).dropWhile isGap
      if marksDocument gap rest then none
      else decodeFrom fuel ((folded gap).reverse ++ done) rest
    else decodeFrom fuel (c :: done) cs

def decode? (spelling : List Char) : Option String :=
  (decodeFrom spelling.length [] spelling).map String.ofList

def splitQuoted (done : List Char) : List Char → Option (List Char × List Char)
  | [] => none
  | '"' :: rest => some (done.reverse, rest)
  | '\\' :: c :: rest => splitQuoted (c :: '\\' :: done) rest
  | c :: rest => splitQuoted (c :: done) rest

end RelayMesh.Draft
