import RelayMesh.Document

/-!
Written forms of types: how a value is written as a document, and which documents read as a value.
A record is an object, or the list of its values in the order of its fields. A tagged value names
its case in one field, or in the first item of a list.
-/

namespace RelayMesh

class Form (α : Type) where
  write : α → Document
  read? : Document → Option α

namespace Document

open Form (write read?)

/-- The values of the fields of a record. Fields that are not asked for do not matter in an object,
and an object need not have all of them; a list has exactly one item for each. -/
def record? (names : List String) : Document → Option (List (Option Document))
  | .object fields => some (names.map fun name => lookup name fields)
  | .list items => if items.length = names.length then some (items.map some) else none
  | _ => none

def required? [Form α] (value : Option Document) : Option α :=
  value.bind read?

def optional? [Form α] (value : Option Document) : Option (Option α) :=
  match value with
  | none => some none
  | some .null => some none
  | some d => (read? d).map some

def tagged? (tag : String) : Document → Option (String × Document)
  | .object fields =>
    match lookup tag fields with
    | some (.text name) => some (name, .object fields)
    | _ => none
  | .list (.text name :: items) => some (name, .list items)
  | _ => none

/-- A value that is known by its name alone. The name may also stand as the only field of an
object, without a value. -/
def named? (names : List (String × α)) : Document → Option α
  | .text s => (names.find? fun entry => entry.1 == s).map (·.2)
  | .object [(s, .null)] => (names.find? fun entry => entry.1 == s).map (·.2)
  | _ => none

def natBelow? (limit : Nat) : Document → Option Nat
  | .int i => if 0 ≤ i ∧ i < limit then some i.toNat else none
  | _ => none

end Document

open Document (natBelow?)

instance : Form Document where
  write d := d
  read? := some

instance : Form Bool where
  write := .bool
  read?
    | .bool b => some b
    | _ => none

instance : Form String where
  write := .text
  read?
    | .text s => some s
    | _ => none

instance : Form Nat where
  write := .nat
  read? := natBelow? UInt64.size

instance : Form Int where
  write := .int
  read?
    | .int i => if -9223372036854775808 ≤ i ∧ i < 9223372036854775808 then some i else none
    | _ => none

instance : Form UInt8 where
  write n := .nat n.toNat
  read? d := (natBelow? UInt8.size d).map UInt8.ofNat

instance : Form UInt16 where
  write n := .nat n.toNat
  read? d := (natBelow? UInt16.size d).map UInt16.ofNat

instance : Form UInt32 where
  write n := .nat n.toNat
  read? d := (natBelow? UInt32.size d).map UInt32.ofNat

instance : Form UInt64 where
  write n := .nat n.toNat
  read? d := (natBelow? UInt64.size d).map UInt64.ofNat

instance : Form Binary64 where
  write := .float
  read?
    | .float x => some x
    | .int i => some (.ofInt i)
    | _ => none

instance [Form α] : Form (List α) where
  write xs := .list (xs.map Form.write)
  read?
    | .list items => items.mapM Form.read?
    | _ => none

instance [Form α] [Form β] : Form (α × β) where
  write p := .list [Form.write p.1, Form.write p.2]
  read?
    | .list [a, b] => do return (← Form.read? a, ← Form.read? b)
    | _ => none

instance [Form α] : Form (Option α) where
  write := .ofOption Form.write
  read?
    | .null => some none
    | d => (Form.read? d).map some

end RelayMesh
