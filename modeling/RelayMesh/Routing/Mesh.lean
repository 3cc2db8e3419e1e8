import RelayMesh.Document.Form
import RelayMesh.Topology

namespace RelayMesh

inductive MeshMode where
  | full
  | declared
deriving DecidableEq, Inhabited

namespace MeshMode

def text : MeshMode → String
  | .full => "full"
  | .declared => "declared"

def all : List MeshMode := [.full, .declared]

def named? (name : String) : Option MeshMode :=
  all.find? fun mode => mode.text == name

def namedIgnoringCase? (name : String) : Option MeshMode :=
  named? (String.ofList (name.toList.map Char.toLower))

end MeshMode

instance : Form MeshMode where
  write mode := .text mode.text
  read? := Document.named? (MeshMode.all.map fun m => (m.text, m))

def Topology.links (t : Topology) : MeshMode → List (NodeId × NodeId)
  | .full => t.allPairs
  | .declared => t.declaredPairs

end RelayMesh
