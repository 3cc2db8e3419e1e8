import RelayMesh.Text.Basic

/-!
Patterns for names: a question mark stands for one character, a star for any number of them, and
brackets for one of some characters or, behind an exclamation mark, for one of all others. Two stars
alone between slashes stand for any number of directories.
-/

namespace RelayMesh.Files

inductive CharSpec where
  | single (c : Char)
  | range (first last : Char)
deriving DecidableEq

def CharSpec.holds (c : Char) : CharSpec → Bool
  | .single d => c == d
  | .range first last => first ≤ c && c ≤ last

inductive Token where
  | char (c : Char)
  | anyChar
  | anySequence
  | anyDirectories
  | within (specs : List CharSpec)
  | except (specs : List CharSpec)
deriving DecidableEq

abbrev Pattern := List Token

inductive PatternFault where
  | tooManyStars
  | misplacedStars
  | openRange
deriving DecidableEq

structure PatternError where
  position : Nat
  fault : PatternFault
deriving DecidableEq

def PatternFault.text : PatternFault → String
  | .tooManyStars => "wildcards are either regular `*` or recursive `**`"
  | .misplacedStars => "recursive wildcards must form a single path component"
  | .openRange => "invalid range pattern"

def PatternError.message (e : PatternError) : String :=
  s!"Pattern syntax error near position {e.position}: {e.fault.text}"

namespace Pattern

/-- The members of a set: a minus sign between two characters makes a range of them. -/
def specs : List Char → List CharSpec
  | a :: '-' :: b :: rest => .range a b :: specs rest
  | a :: rest => .single a :: specs rest
  | [] => []

def bracketed? : List Char → Option (List Char × List Char)
  | [] => none
  | first :: rest =>
    match rest.dropWhile (· != ']') with
    | [] => none
    | _ :: behind => some (first :: rest.takeWhile (· != ']'), behind)

def set? : List Char → Option (Token × List Char)
  | '!' :: rest => (bracketed? rest).map fun (members, behind) => (.except (specs members), behind)
  | cs => (bracketed? cs).map fun (members, behind) => (.within (specs members), behind)

/-- Reads a pattern from a position on, where `atStart` says that nothing but a slash may stand in
front of it. Each token uses up fuel, and a pattern has no more tokens than characters. -/
def tokensFrom : Nat → Nat → Bool → List Char → Except PatternError (List Token)
  | 0, _, _, _ => .ok []
  | _, _, _, [] => .ok []
  | fuel + 1, position, _, '?' :: rest => do
    return .anyChar :: (← tokensFrom fuel (position + 1) false rest)
  | fuel + 1, position, atStart, '*' :: rest =>
    let stars := (rest.takeWhile (· == '*')).length + 1
    let behind := rest.dropWhile (· == '*')
    if stars = 1 then do
      return .anySequence :: (← tokensFrom fuel (position + 1) false behind)
    else if stars = 2 then
      if atStart then
        match behind with
        | [] => .ok [.anyDirectories]
        | '/' :: more => do
          return .anyDirectories :: (← tokensFrom fuel (position + 3) true more)
        | _ => .error ⟨position + 2, .misplacedStars⟩
      else .error ⟨position - 1, .misplacedStars⟩
    else .error ⟨position + 2, .tooManyStars⟩
  | fuel + 1, position, _, '[' :: rest =>
    match set? rest with
    | some (token, behind) => do
      let width := rest.length - behind.length + 1
      return token :: (← tokensFrom fuel (position + width) false behind)
    | none => .error ⟨position, .openRange⟩
  | fuel + 1, position, _, c :: rest => do
    return .char c :: (← tokensFrom fuel (position + 1) (c == '/') rest)

def ofChars (cs : List Char) : Except PatternError Pattern :=
  tokensFrom cs.length 0 true cs

def isRecursive (p : Pattern) : Bool :=
  p == [.anyDirectories]

def literal? (p : Pattern) : Option String :=
  (p.mapM fun
    | Token.char c => some c
    | _ => none).map String.ofList

def holdsChar (c : Char) : Token → Bool
  | .char d => c == d
  | .anyChar => true
  | .within specs => specs.any (·.holds c)
  | .except specs => !specs.any (·.holds c)
  | .anySequence => false
  | .anyDirectories => false

def orLater (bs : List Bool) : List Bool :=
  bs.foldr (fun b later => (b || later.headD false) :: later) []

def acceptsRests (name : List Char) : Pattern → List Bool
  | [] => name.map (fun _ => false) ++ [true]
  | .anySequence :: rest => orLater (acceptsRests name rest)
  | token :: rest =>
    List.zipWith (fun c accepted => holdsChar c token && accepted) name
      (acceptsRests name rest).tail ++ [false]

def accepts (p : Pattern) (name : List Char) : Bool :=
  (acceptsRests name p).headD false

end Pattern

end RelayMesh.Files
