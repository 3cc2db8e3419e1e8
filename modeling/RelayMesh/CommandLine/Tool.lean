import RelayMesh.CommandLine.Arguments
import RelayMesh.Configuration.Form
import RelayMesh.Files.System

/-!
Tools: what they have in common. A tool prints text and may fail with a message; what it printed
before it failed remains. The configuration is given by a file, and the command line or the
environment may override whether certificates are verified.
-/

namespace RelayMesh.CommandLine

open Files (FileError FileSystem)

abbrev Work (m : Type → Type) := ExceptT String (StateT String m)

inductive Status where
  | done
  | failed (message : String)
  | usage
deriving DecidableEq

structure Outcome where
  output : String
  status : Status
deriving DecidableEq

def Status.exitCode : Status → Nat
  | .done => 0
  | .failed _ => 1
  | .usage => 2

section

variable {m : Type → Type} [Monad m]

def printLine (line : String) : Work m Unit :=
  modify fun output => output ++ line ++ "\n"

def orFail (message : ε → String) : Except ε α → Work m α
  | .ok a => return a
  | .error e => throw (message e)

def act (action : m α) : Work m α :=
  ExceptT.lift (StateT.lift action)

def usage : m Outcome :=
  return ⟨"", .usage⟩

def outcome (work : Work m Unit) : m Outcome := do
  match ← work.run.run "" with
  | (.ok (), output) => return ⟨output, .done⟩
  | (.error message, output) => return ⟨output, .failed message⟩

end

structure ConfigurationOptions where
  file : Option String := none
  tlsVerify : Option Bool := none
deriving DecidableEq

inductive ConfigurationError where
  | unreadable (path : String) (error : FileError)
  | invalid
deriving DecidableEq

def ConfigurationError.message : ConfigurationError → String
  | .unreadable path error => s!"Cannot read {path}: {error.message}"
  | .invalid => "Invalid configuration"

namespace ConfigurationOptions

def specs : List OptionSpec :=
  [⟨"config", some 'c', .single⟩, ⟨"tls-verify", none, .single⟩]

/-- The options of a command line. The environment may stand in for the second. -/
def ofArguments? (environment : Option String) (a : Arguments) : Option ConfigurationOptions := do
  let file ← a.value? "config" path?
  let given ← a.value? "tls-verify" truth?
  match given, environment with
  | some verify, _ => return ⟨file, some verify⟩
  | none, some value => return ⟨file, some (← truth? value)⟩
  | none, none => return ⟨file, none⟩

def override (o : ConfigurationOptions) (c : Configuration) : Configuration :=
  match o.tlsVerify with
  | some verify => { c with launch := { c.launch with tlsVerify := verify } }
  | none => c

variable {m : Type → Type} [Monad m] [FileSystem m]

def load (o : ConfigurationOptions) : m (Except ConfigurationError Configuration) := do
  match o.file with
  | none => return .ok (o.override {})
  | some path =>
    match ← Files.readText path with
    | .error e => return .error (.unreadable path e)
    | .ok text =>
      match Configuration.ofText? text with
      | some c => return .ok (o.override c)
      | none => return .error .invalid

def loadOrFail (o : ConfigurationOptions) : Work m Configuration := do
  orFail (fun _ => "Cannot load the configuration") (← act o.load)

end ConfigurationOptions

end RelayMesh.CommandLine
