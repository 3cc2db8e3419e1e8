import RelayMesh.Decimal.Style
import RelayMesh.Document

namespace RelayMesh.Document

def escapedChar (c : Char) : List Char :=
  if c = '"' then ['\\', '"']
  else if c = '\\' then ['\\', '\\']
  else if c = '\x08' then ['\\', 'b']
  else if c = '\x0c' then ['\\', 'f']
  else if c = '\n' then ['\\', 'n']
  else if c = '\r' then ['\\', 'r']
  else if c = '\t' then ['\\', 't']
  else if c.toNat < 0x20 then
    ['\\', 'u', '0', '0', Nat.digitChar (c.toNat / 16), Nat.digitChar (c.toNat % 16)]
  else [c]

def printText (s : String) : List Char :=
  '"' :: (s.toList.flatMap escapedChar ++ ['"'])

def printInt (i : Int) : List Char :=
  if i < 0 then '-' :: Text.decimal i.natAbs else Text.decimal i.natAbs

def printFloat (x : Binary64) : List Char :=
  if x.isFinite then Decimal.documentStyle.render x else "null".toList

def printAtom : Document → List Char
  | .null => "null".toList
  | .bool true => "true".toList
  | .bool false => "false".toList
  | .int i => printInt i
  | .float x => printFloat x
  | .text s => printText s
  | .list _ => ['[', ']']
  | .object _ => ['\x7b', '\x7d']

def joined (separator : List Char) : List (List Char) → List Char
  | [] => []
  | [part] => part
  | part :: parts => part ++ separator ++ joined separator parts

mutual

def compact : Document → List Char
  | .list (item :: items) =>
    '[' :: (compact item ++ compactItems items ++ [']'])
  | .object (field :: fields) =>
    '\x7b' :: (printText field.1 ++ ':' :: (compact field.2 ++ compactFields fields ++ ['\x7d']))
  | atom => printAtom atom

def compactItems : List Document → List Char
  | [] => []
  | item :: items => ',' :: (compact item ++ compactItems items)

def compactFields : List (String × Document) → List Char
  | [] => []
  | field :: fields =>
    ',' :: (printText field.1 ++ ':' :: (compact field.2 ++ compactFields fields))

end

def newline (level : Nat) : List Char :=
  '\n' :: List.replicate (2 * level) ' '

mutual

def pretty (level : Nat) : Document → List Char
  | .list (item :: items) =>
    '[' :: (newline (level + 1) ++ pretty (level + 1) item ++ prettyItems (level + 1) items
      ++ newline level ++ [']'])
  | .object (field :: fields) =>
    '\x7b' :: (newline (level + 1) ++ printText field.1 ++ [':', ' ']
      ++ pretty (level + 1) field.2 ++ prettyFields (level + 1) fields
      ++ newline level ++ ['\x7d'])
  | atom => printAtom atom

def prettyItems (level : Nat) : List Document → List Char
  | [] => []
  | item :: items =>
    ',' :: (newline level ++ pretty level item ++ prettyItems level items)

def prettyFields (level : Nat) : List (String × Document) → List Char
  | [] => []
  | field :: fields =>
    ',' :: (newline level ++ printText field.1 ++ [':', ' ']
      ++ pretty level field.2 ++ prettyFields level fields)

end

def compactText (d : Document) : String :=
  String.ofList (compact d)

def prettyText (d : Document) : String :=
  String.ofList (pretty 0 d)

end RelayMesh.Document
