import RelayMesh.Binary64
import RelayMesh.Calendar
import RelayMesh.Decimal.Style
import RelayMesh.Files.System
import RelayMesh.Text.Classes

namespace RelayMesh.Measurement

open Files (FileError FileSystem)

inductive BaselineError where
  | io (path : String) (error : FileError)
  | parse (path content : String)
  | notFinite (seconds : Binary64)
  | notFound (path : String)
deriving DecidableEq

def secondsText (seconds : Binary64) : String :=
  String.ofList (Decimal.plainStyle.render seconds)

def BaselineError.message : BaselineError → String
  | .io path error => s!"IO Error on {path}: {error.message}"
  | .parse path content =>
    s!"Cannot parse the baseline stored in {path}: {Text.quoted content}"
  | .notFinite seconds =>
    s!"Baseline must be a finite number of seconds, got {secondsText seconds}"
  | .notFound path => s!"No baseline stored in {path}"

def baselineBeginning : String := "assumedbaseline_"

def baselineEnding : String := ".txt"

def baselineName (date : Date) : String :=
  baselineBeginning ++ date.key ++ baselineEnding

def between? (beginning ending text : List Char) : Option (List Char) :=
  (beginning.isPrefixOf? text).bind fun rest =>
    (ending.reverse.isPrefixOf? rest.reverse).map List.reverse

def baselineDate? (name : String) : Option Date :=
  (between? baselineBeginning.toList baselineEnding.toList name.toList).bind Date.ofKeyChars?

def secondsOfText (path content : String) : Except BaselineError Binary64 :=
  match Decimal.ofChars? (Text.trim content.toList) with
  | none => .error (.parse path content)
  | some seconds => if seconds.isFinite then .ok seconds else .error (.notFinite seconds)

structure BaselineStore where
  directory : String
deriving DecidableEq

namespace BaselineStore

def path (s : BaselineStore) (date : Date) : String :=
  Files.join s.directory (baselineName date)

variable {m : Type → Type} [Monad m] [FileSystem m]

def store (s : BaselineStore) (date : Date) (seconds : Binary64) :
    m (Except BaselineError String) := do
  if !seconds.isFinite then return .error (.notFinite seconds)
  match ← FileSystem.createDirectories s.directory with
  | .error e => return .error (.io s.directory e)
  | .ok () =>
    let path := s.path date
    match ← Files.writeText path (secondsText seconds) with
    | .error e => return .error (.io path e)
    | .ok () => return .ok path

def load (s : BaselineStore) (date : Date) : m (Except BaselineError Binary64) := do
  let path := s.path date
  match ← Files.readText path with
  | .error .notFound => return .error (.notFound path)
  | .error e => return .error (.io path e)
  | .ok content => return secondsOfText path content

def latest (s : BaselineStore) : m (Except BaselineError (Option (Date × Binary64))) := do
  match ← FileSystem.list s.directory with
  | .error .notFound => return .ok none
  | .error e => return .error (.io s.directory e)
  | .ok names =>
    match Date.latest? (names.filterMap baselineDate?) with
    | none => return .ok none
    | some date => return (← s.load date).map fun seconds => some (date, seconds)

end BaselineStore

end RelayMesh.Measurement
