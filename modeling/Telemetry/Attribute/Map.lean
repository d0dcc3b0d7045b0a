import Telemetry.Double

/-!
# Attributes

The attributes of a record: values by key, in the order in which the keys were first written, where
the last write to a key wins.
-/

namespace Telemetry

/-- The value of an attribute. -/
inductive Attribute.Value where
  /-- A text. -/
  | text (s : String)
  /-- A truth value. -/
  | bool (b : Bool)
  /-- An integer. -/
  | int (n : Int)
  /-- A floating-point number. -/
  | double (x : Double)
  /-- A sequence of bytes. -/
  | bytes (bs : List UInt8)
  /-- A list of values. -/
  | list (values : List Value)
deriving Inhabited

/-- Attributes in the order of the first write to each key. -/
structure AttributeMap where
  /-- The keys with their values. -/
  entries : List (String × Attribute.Value) := []

namespace AttributeMap

open Attribute (Value)

/-- No attributes. -/
def empty : AttributeMap := {}

/-- Whether there is no attribute. -/
def isEmpty (m : AttributeMap) : Bool := m.entries.isEmpty

/-- The number of attributes. -/
def size (m : AttributeMap) : Nat := m.entries.length

/-- The attributes in order. -/
def toList (m : AttributeMap) : List (String × Value) := m.entries

/-- The value of a key. -/
def get? (m : AttributeMap) (key : String) : Option Value :=
  (m.entries.find? (·.1 = key)).map (·.2)

/-- Writes a value: in the place of the key if it has one, at the end otherwise. -/
def insert (m : AttributeMap) (key : String) (value : Value) : AttributeMap :=
  if m.entries.any (·.1 = key) then
    ⟨m.entries.map fun entry => if entry.1 = key then (key, value) else entry⟩
  else ⟨m.entries ++ [(key, value)]⟩

/-- Writes several values, one after the other. -/
def insertMany (m : AttributeMap) (writes : List (String × Value)) : AttributeMap :=
  writes.foldl (fun m write => m.insert write.1 write.2) m

/-- Writes a text. -/
def insertText (m : AttributeMap) (key text : String) : AttributeMap := m.insert key (.text text)

/-- Writes a text if there is one. -/
def insertText? (m : AttributeMap) (key : String) : Option String → AttributeMap
  | some text => m.insertText key text
  | none => m

end AttributeMap

end Telemetry
