import RelayMesh.Files.Path
import RelayMesh.Files.System

/-!
File trees in memory. A location is the list of names on the way from the root; a path leads from
the root or from the working directory through directories only, except for its end.
-/

namespace RelayMesh.Files

abbrev Location := List String

inductive Content where
  | directory
  | file (bytes : List UInt8)
deriving DecidableEq

structure Entry where
  location : Location
  content : Content
  created : Nat
deriving DecidableEq

structure FileTree where
  entries : List Entry := []
  clock : Nat := 0
  /-- Where paths begin that do not begin at the root. -/
  working : Location := []
deriving DecidableEq, Inhabited

namespace FileTree

def entry? (t : FileTree) (location : Location) : Option Entry :=
  t.entries.find? fun e => e.location == location

def content? (t : FileTree) (location : Location) : Option Content :=
  if location = [] then some .directory else (t.entry? location).map (·.content)

def isDirectory (t : FileTree) (location : Location) : Bool :=
  t.content? location == some .directory

/-- Goes on from a location along the pieces of a path. All but the end must be directories. -/
def walk (t : FileTree) (location : Location) : List String → Except FileError Location
  | [] => .ok location
  | piece :: rest =>
    match t.content? location with
    | none => .error .notFound
    | some (.file _) => .error .notADirectory
    | some .directory =>
      if piece = "" ∨ piece = "." then walk t location rest
      else if piece = ".." then walk t location.dropLast rest
      else walk t (location ++ [piece]) rest

def start (t : FileTree) (path : String) : Location :=
  if path.startsWith "/" then [] else t.working

/-- Where a path leads. The empty path leads nowhere. -/
def locate (t : FileTree) (path : String) : Except FileError Location :=
  if path = "" then .error .notFound else t.walk (t.start path) (pieces path)

/-- Puts something at a location. What is replaced keeps its place and its time of creation. -/
def put (t : FileTree) (location : Location) (content : Content) : FileTree :=
  if (t.entry? location).isSome then
    { t with entries := t.entries.map fun e =>
      if e.location = location then { e with content := content } else e }
  else
    { t with entries := t.entries ++ [⟨location, content, t.clock⟩], clock := t.clock + 1 }

def read (t : FileTree) (path : String) : Except FileError (List UInt8) := do
  match t.content? (← t.locate path) with
  | none => .error .notFound
  | some .directory => .error .isADirectory
  | some (.file bytes) => .ok bytes

def write (t : FileTree) (path : String) (bytes : List UInt8) :
    Except FileError Unit × FileTree :=
  match t.locate path with
  | .error e => (.error e, t)
  | .ok location =>
    if t.isDirectory location then (.error .isADirectory, t)
    else (.ok (), t.put location (.file bytes))

def makeDirectories (t : FileTree) (location : Location) :
    List String → Except FileError Unit × FileTree
  | [] => (.ok (), t)
  | step :: rest =>
    let next := if step = ".." then location.dropLast else location ++ [step]
    match t.content? next with
    | some .directory => makeDirectories t next rest
    | some (.file _) => (.error (if rest = [] then .alreadyExists else .notADirectory), t)
    | none => makeDirectories (t.put next .directory) next rest

def createDirectories (t : FileTree) (path : String) : Except FileError Unit × FileTree :=
  t.makeDirectories (t.start path) (steps path)

def namesIn (t : FileTree) (location : Location) : List String :=
  t.entries.filterMap fun e =>
    if e.location.dropLast = location then e.location.getLast? else none

def list (t : FileTree) (path : String) : Except FileError (List String) := do
  let location ← t.locate path
  match t.content? location with
  | none => .error .notFound
  | some (.file _) => .error .notADirectory
  | some .directory => .ok (t.namesIn location)

def info (t : FileTree) (path : String) : Option FileInfo := do
  let location ← (t.locate path).toOption
  let content ← t.content? location
  return ⟨content == .directory, ((t.entry? location).map (·.created)).getD 0⟩

def remove (t : FileTree) (path : String) : FileTree :=
  match t.locate path with
  | .error _ => t
  | .ok location => { t with entries := t.entries.filter fun e => !location.isPrefixOf e.location }

def withFile (t : FileTree) (path : String) (bytes : List UInt8) : FileTree :=
  ((t.makeDirectories (t.start path) (steps path).dropLast).2.write path bytes).2

end FileTree

instance : FileSystem (StateM FileTree) where
  read path := fun t => (t.read path, t)
  write path bytes := fun t => t.write path bytes
  createDirectories path := fun t => t.createDirectories path
  list path := fun t => (t.list path, t)
  info path := fun t => (t.info path, t)

end RelayMesh.Files
