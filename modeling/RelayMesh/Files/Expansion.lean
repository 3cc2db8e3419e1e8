import RelayMesh.Files.Path
import RelayMesh.Files.Pattern
import RelayMesh.Files.System

namespace RelayMesh.Files

def workingDirectory : String := "."

/-- A path one step further. Below the working directory, dots aside, the name stands alone. -/
def stepInto (path name : String) : String :=
  if places path = places workingDirectory then name else join path name

/-- No path of a file system has more steps. -/
def maxDepth : Nat := 4096

def Pattern.ofPath (text : String) : Except PatternError (List Pattern) := do
  let _ ← Pattern.ofChars text.toList
  let all := Text.splitOn '/' text.toList
  let pieces := if all.getLast? = some [] then all.dropLast else all
  let pieces := if text.startsWith "/" then pieces.drop 1 else pieces
  pieces.mapM Pattern.ofChars

section

variable {m : Type → Type} [Monad m] [FileSystem m]

def present (path : String) : m Bool := do
  return (← FileSystem.info path).isSome

def isDirectory (path : String) : m Bool := do
  return (← FileSystem.info path).any (·.isDirectory)

def isFile (path : String) : m Bool := do
  return (← FileSystem.info path).any (!·.isDirectory)

/-- The names in a directory in ascending order, none if they cannot be listed. -/
def sortedNames (path : String) : m (List String) := do
  match ← FileSystem.list path with
  | .ok names => return names.mergeSort fun a b => a ≤ b
  | .error _ => return []

def forEach (f : α → m (List β)) : List α → m (List β)
  | [] => return []
  | a :: rest => do
    let first ← f a
    let others ← forEach f rest
    return first ++ others

def dotNames (p : Pattern) : List String :=
  if p.head? = some (.char '.') then ["..", "."].filter fun name => p.accepts name.toList else []

/-- Patterns without the recursive ones in front, except for the last of these. -/
def collapse : List Pattern → List Pattern
  | p :: q :: rest =>
    if p.isRecursive && q.isRecursive then collapse (q :: rest) else p :: q :: rest
  | ps => ps

mutual

def below : Nat → List Pattern → String → m (List String)
  | 0, _, _ => return []
  | _, [], path => return [path]
  | fuel + 1, p :: rest, path =>
    match p.literal? with
    | some name => do
      let next := stepInto path name
      let found ← if name = "." ∨ name = ".." then isDirectory path else present next
      if found then below fuel rest next else return []
    | none => do
      if ← isDirectory path then
        let names ← sortedNames path
        let dots ← forEach (fun name => below fuel rest (join path name)) (dotNames p)
        let others ← forEach (fun name => visit fuel (p :: rest) (stepInto path name)) names
        return dots ++ others
      else return []

def visit : Nat → List Pattern → String → m (List String)
  | 0, _, _ => return []
  | fuel + 1, patterns, path =>
    match collapse patterns with
    | [] => return []
    | p :: rest =>
      if p.isRecursive then do
        let directory ← isDirectory path
        let here ← match rest with
          | [] => pure (if directory then [path] else [])
          | rest => compareName fuel rest path
        let deeper ← if directory then below fuel (p :: rest) path else pure []
        return here ++ deeper
      else compareName fuel (p :: rest) path

def compareName : Nat → List Pattern → String → m (List String)
  | 0, _, _ => return []
  | _, [], _ => return []
  | fuel + 1, p :: rest, path =>
    if (lastName? path).any fun name => p.accepts name.toList then
      match rest with
      | [] => return [path]
      | rest => below fuel rest path
    else return []

end

def expand (text : String) : m (Except PatternError (List String)) := do
  match Pattern.ofPath text with
  | .error e => return .error e
  | .ok patterns =>
    let start := if text.startsWith "/" then "/" else workingDirectory
    return .ok (← below (3 * (patterns.length + maxDepth)) patterns start)

abbrev Dated := Nat × String

/-- Newer files come first, and files of the same age in the order of their paths. -/
def newerFirst (a b : Dated) : Bool :=
  b.1 < a.1 || (b.1 == a.1 && pathLe a.2 b.2)

def excluded (beginnings : List String) (path : String) : Bool :=
  beginnings.any fun beginning => ((lastName? path).getD "").startsWith beginning

/-- The file at a path with its time, unless the path is a directory or excluded. -/
def dated? (beginnings : List String) (path : String) : m (Option Dated) := do
  match ← FileSystem.info path with
  | some info =>
    return if info.isDirectory || excluded beginnings path then none else some (info.created, path)
  | none => return none

def mostRecent (directory : String) (n : Nat) (beginnings : List String) :
    m (Except PatternError (List String)) := do
  match ← expand (join directory "*") with
  | .error e => return .error e
  | .ok paths =>
    let files ← forEach (fun path => do return (← dated? beginnings path).toList) paths
    return .ok (((files.mergeSort newerFirst).take n).map (·.2))

end

end RelayMesh.Files
