import RelayMesh.Decimal.Reading
import RelayMesh.Document

namespace RelayMesh

inductive Draft where
  | word (s : String)
  | text (s : String)
  | list (items : List Draft)
  | object (fields : List (String × Draft))
deriving Inhabited, BEq

namespace Draft

def scalar? : Draft → Option String
  | .word s => some s
  | .text s => some s
  | _ => none

def fits (bits : Nat) (i : Int) : Bool :=
  -(Nat.pow 2 (bits - 1) : Nat) ≤ i && i < (Nat.pow 2 bits : Nat)

/-- A word as a float; one that is no finite number stays a text. -/
def ofFloatWord (s : String) : Document :=
  match Decimal.read? s with
  | some x => if x.isFinite then .float x else .text s
  | none => .text s

/-- What a word stands for where nothing special is expected. An integer of more than 64 bits is
refused as long as 128 bits would hold it; beyond that it is a float. -/
def meaning? (s : String) : Option Document :=
  if s = "null" then some .null
  else if s = "true" then some (.bool true)
  else if s = "false" then some (.bool false)
  else match Decimal.integer? s.toList with
    | some i =>
      if fits 64 i then some (.int i)
      else if fits 128 i then none
      else some (ofFloatWord s)
    | none => some (ofFloatWord s)

def maxDepth : Nat := 128

/-- The document that a draft stands for, if at most `depth` of its lists and objects stand within
one another. -/
def document? : Nat → Draft → Option Document
  | _, .word s => meaning? s
  | _, .text s => some (.text s)
  | 0, _ => none
  | depth + 1, .list items => (items.mapM (document? depth)).map .list
  | depth + 1, .object fields =>
    (fields.mapM fun field => (document? depth field.2).map fun d => (field.1, d)).map .object

mutual

def hasDistinctNames : Draft → Bool
  | .list items => itemsHaveDistinctNames items
  | .object fields => decide (fields.map (·.1)).Nodup && fieldsHaveDistinctNames fields
  | _ => true

def itemsHaveDistinctNames : List Draft → Bool
  | [] => true
  | d :: rest => d.hasDistinctNames && itemsHaveDistinctNames rest

def fieldsHaveDistinctNames : List (String × Draft) → Bool
  | [] => true
  | (_, d) :: rest => d.hasDistinctNames && fieldsHaveDistinctNames rest

end

def settled? (d : Draft) : Option Document :=
  if d.hasDistinctNames then d.document? maxDepth else none

end Draft

end RelayMesh
