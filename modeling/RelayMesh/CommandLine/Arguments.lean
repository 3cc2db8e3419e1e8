/-!
Command lines of tools. An option has a long name behind two dashes, and possibly a letter behind
one; its value follows, or is attached to it, behind an equals sign if there is one. Two dashes
alone end the options. Only options with any number of values may be repeated.
-/

namespace RelayMesh.CommandLine

inductive Arity where
  | flag
  | single
  | many
deriving DecidableEq

structure OptionSpec where
  name : String
  letter : Option Char
  arity : Arity
deriving DecidableEq

structure Grammar where
  options : List OptionSpec
  positionals : Nat

structure Occurrence where
  option : OptionSpec
  values : List String
deriving DecidableEq

structure Arguments where
  occurrences : List Occurrence := []
  positionals : List String := []

namespace Grammar

def named? (g : Grammar) (name : String) : Option OptionSpec :=
  g.options.find? fun o => o.name == name

def lettered? (g : Grammar) (letter : Char) : Option OptionSpec :=
  g.options.find? fun o => o.letter == some letter

/-- Reading under way: the arguments so far, and the option that still takes values. -/
structure State where
  done : Arguments := {}
  pending : Option Occurrence := none

def settle (s : State) : Option Arguments :=
  match s.pending with
  | none => some s.done
  | some o =>
    if o.values = [] then none
    else some { s.done with occurrences := s.done.occurrences ++ [o] }

def begin? (done : Arguments) (o : OptionSpec) (attached : Option String) : Option State :=
  match o.arity, attached with
  | .flag, none => some ⟨{ done with occurrences := done.occurrences ++ [⟨o, []⟩] }, none⟩
  | .flag, some _ => none
  | _, some value =>
    some ⟨{ done with occurrences := done.occurrences ++ [⟨o, [value]⟩] }, none⟩
  | _, none => some ⟨done, some ⟨o, []⟩⟩

def long? (g : Grammar) (done : Arguments) (body : List Char) : Option State := do
  let o ← g.named? (String.ofList (body.takeWhile (· != '=')))
  begin? done o (match body.dropWhile (· != '=') with
    | [] => none
    | _ :: value => some (String.ofList value))

def letters? (g : Grammar) (done : Arguments) : List Char → Option State
  | [] => some ⟨done, none⟩
  | letter :: rest => do
    let o ← g.lettered? letter
    match o.arity, rest with
    | .flag, rest => g.letters? (← begin? done o none).done rest
    | _, [] => begin? done o none
    | _, '=' :: value => begin? done o (some (String.ofList value))
    | _, value => begin? done o (some (String.ofList value))

/-- An argument that is no option: a value of the pending option, or one on its own. -/
def plain (s : State) (argument : String) : State :=
  match s.pending with
  | none => ⟨{ s.done with positionals := s.done.positionals ++ [argument] }, none⟩
  | some o =>
    let o := { o with values := o.values ++ [argument] }
    if o.option.arity = .many then ⟨s.done, some o⟩
    else ⟨{ s.done with occurrences := s.done.occurrences ++ [o] }, none⟩

def readFrom (g : Grammar) (s : State) : List String → Option Arguments
  | [] => settle s
  | argument :: rest =>
    match argument.toList with
    | ['-', '-'] =>
      (settle s).map fun done => { done with positionals := done.positionals ++ rest }
    | '-' :: '-' :: body => do
      let done ← settle s
      g.readFrom (← g.long? done body) rest
    | '-' :: letter :: letters => do
      let done ← settle s
      g.readFrom (← g.letters? done (letter :: letters)) rest
    | _ => g.readFrom (plain s argument) rest

def unrepeated (g : Grammar) (a : Arguments) : Bool :=
  g.options.all fun o =>
    o.arity == .many || (a.occurrences.filter (·.option == o)).length ≤ 1

def read? (g : Grammar) (commandLine : List String) : Option Arguments :=
  (g.readFrom {} commandLine).filter fun a =>
    g.unrepeated a && a.positionals.length ≤ g.positionals

end Grammar

namespace Arguments

def values (a : Arguments) (name : String) : List String :=
  (a.occurrences.filter (·.option.name == name)).flatMap (·.values)

def has (a : Arguments) (name : String) : Bool :=
  a.occurrences.any (·.option.name == name)

def value? (a : Arguments) (name : String) (read : String → Option α) : Option (Option α) :=
  match a.values name with
  | [] => some none
  | value :: _ => (read value).map some

end Arguments

def path? (s : String) : Option String :=
  if s = "" then none else some s

def truth? (s : String) : Option Bool :=
  let name := String.ofList (s.toList.map Char.toLower)
  if ["y", "yes", "t", "true", "on", "1"].contains name then some true
  else if ["n", "no", "f", "false", "off", "0"].contains name then some false
  else none

end RelayMesh.CommandLine
