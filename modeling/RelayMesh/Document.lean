import RelayMesh.Binary64

namespace RelayMesh

inductive Document where
  | null
  | bool (b : Bool)
  | int (i : Int)
  | float (x : Binary64)
  | text (s : String)
  | list (items : List Document)
  | object (fields : List (String × Document))
deriving Inhabited, BEq

namespace Document

def lookup (name : String) (fields : List (String × Document)) : Option Document :=
  (fields.find? fun field => field.1 == name).map (·.2)

def field? (d : Document) (name : String) : Option Document :=
  match d with
  | .object fields => lookup name fields
  | _ => none

def nat (n : Nat) : Document := .int n

def ofOption (write : α → Document) : Option α → Document
  | none => .null
  | some a => write a

end Document

end RelayMesh
