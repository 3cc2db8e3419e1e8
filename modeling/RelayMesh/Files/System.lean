import RelayMesh.Files.Path
import RelayMesh.Text.Utf8

/-!
Access to files. Programs that use files run in any monad with these operations, so they run on a
disk and on a tree in memory alike.
-/

namespace RelayMesh.Files

inductive FileError where
  | notFound
  | notADirectory
  | isADirectory
  | alreadyExists
  | invalidText
  | other (reason : String)
deriving DecidableEq

def FileError.message : FileError → String
  | .notFound => "No such file or directory (os error 2)"
  | .notADirectory => "Not a directory (os error 20)"
  | .isADirectory => "Is a directory (os error 21)"
  | .alreadyExists => "File exists (os error 17)"
  | .invalidText => "stream did not contain valid UTF-8"
  | .other reason => reason

structure FileInfo where
  isDirectory : Bool
  created : Nat
deriving DecidableEq

class FileSystem (m : Type → Type) where
  read : String → m (Except FileError (List UInt8))
  write : String → List UInt8 → m (Except FileError Unit)
  createDirectories : String → m (Except FileError Unit)
  list : String → m (Except FileError (List String))
  info : String → m (Option FileInfo)

variable {m : Type → Type} [Monad m] [FileSystem m]

def readLog (path : String) : m (Except FileError (List Char)) := do
  return (← FileSystem.read path).map Text.Utf8.decodeLossy

def readText (path : String) : m (Except FileError String) := do
  match ← FileSystem.read path with
  | .error e => return .error e
  | .ok bytes =>
    match Text.Utf8.decode? bytes with
    | some text => return .ok (String.ofList text)
    | none => return .error .invalidText

def writeText (path text : String) : m (Except FileError Unit) :=
  FileSystem.write path (Text.Utf8.encode text)

end RelayMesh.Files
