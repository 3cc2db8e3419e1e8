import RelayMesh.Document.Form

namespace RelayMesh

/-- A map whose entries stand in strictly ascending order of their keys. -/
structure SortedMap (κ ν : Type) where
  entries : List (κ × ν) := []
deriving DecidableEq, Inhabited

namespace SortedMap

variable {κ ν : Type}

/-- Puts a value under a key into a list of entries, in place of the one already there. -/
def insertEntry [Ord κ] (key : κ) (value : ν) : List (κ × ν) → List (κ × ν)
  | [] => [(key, value)]
  | entry :: rest =>
    match compare key entry.1 with
    | .lt => (key, value) :: entry :: rest
    | .eq => (key, value) :: rest
    | .gt => entry :: insertEntry key value rest

def insert [Ord κ] (m : SortedMap κ ν) (key : κ) (value : ν) : SortedMap κ ν :=
  ⟨insertEntry key value m.entries⟩

def get? [Ord κ] (m : SortedMap κ ν) (key : κ) : Option ν :=
  (m.entries.find? fun entry => compare key entry.1 == .eq).map (·.2)

/-- Fills a map from the entries in order; the last entry of a key wins. -/
def ofList [Ord κ] (entries : List (κ × ν)) : SortedMap κ ν :=
  entries.foldl (fun m entry => m.insert entry.1 entry.2) {}

def toList (m : SortedMap κ ν) : List (κ × ν) :=
  m.entries

end SortedMap

def SortedMap.writeEntry [Form κ] [Form ν] (entry : κ × ν) : Document :=
  .object [("key", Form.write entry.1), ("val", Form.write entry.2)]

def SortedMap.readEntry? [Form κ] [Form ν] (d : Document) : Option (κ × ν) := do
  match ← d.record? ["key", "val"] with
  | [key, value] => return (← Document.required? key, ← Document.required? value)
  | _ => none

/-- A map is written as the list of its entries and read from entries in any order. -/
instance [Form κ] [Form ν] [Ord κ] : Form (SortedMap κ ν) where
  write m := .list (m.toList.map SortedMap.writeEntry)
  read?
    | .list items => (items.mapM SortedMap.readEntry?).map SortedMap.ofList
    | _ => none

end RelayMesh
