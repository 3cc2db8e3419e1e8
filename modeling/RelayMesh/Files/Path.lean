import RelayMesh.Text.Basic

namespace RelayMesh.Files

def join (directory name : String) : String :=
  if name.startsWith "/" ∨ directory = "" then name
  else if directory.endsWith "/" then directory ++ name
  else s!"{directory}/{name}"

def pieces (path : String) : List String :=
  (Text.splitOn '/' path.toList).map String.ofList

/-- The pieces of a path that lead somewhere: neither empty ones nor single dots do. -/
def steps (path : String) : List String :=
  (pieces path).filter fun piece => piece != "" && piece != "."

/-- The name at the end of a path; a path that ends in its parent has none. -/
def lastName? (path : String) : Option String :=
  (steps path).getLast?.filter (· != "..")

def fileName (path : String) : String :=
  (lastName? path).getD path

/-- The places at which a path arrives in the order of paths: the root, the directory in which the
path begins if it says so, a parent, and then all others by their names. -/
def places (path : String) : List (Nat × String) :=
  let start := if path.startsWith "/" then [(0, "")]
    else if (pieces path).head? = some "." then [(1, "")]
    else []
  start ++ (steps path).map fun step => if step = ".." then (2, "") else (3, step)

def pathLe (a b : String) : Bool :=
  placesLe (places a) (places b)
where
  placesLe : List (Nat × String) → List (Nat × String) → Bool
    | [], _ => true
    | _ :: _, [] => false
    | x :: xs, y :: ys =>
      x.1 < y.1 || (x.1 == y.1 && (x.2 < y.2 || (x.2 == y.2 && placesLe xs ys)))

end RelayMesh.Files
