import Std.Data.TreeMap

/-!
# Structured messages

Messages made of keys and values, with an optional format.
-/

namespace Telemetry

/-- A message made of entries, and of a format if it has one. -/
structure MapMessage where
  /-- The format, which takes the place of a text. -/
  format : Option String := none
  /-- The entries, ordered by key. -/
  entries : Std.TreeMap String String := ∅

namespace MapMessage

/-- Sets an entry. -/
def insert (m : MapMessage) (key value : String) : MapMessage :=
  { m with entries := m.entries.insert key value }

/-- Sets the format. -/
def withFormat (m : MapMessage) (format : String) : MapMessage := { m with format := some format }

/-- The value of an entry. -/
def get? (m : MapMessage) (key : String) : Option String := m.entries[key]?

/-- The entry that becomes the text of a message without a format. -/
def textKey : String := "message"

/-- Whether the text of the message is one of its entries: it has no format, or an empty one. -/
def isPromoting (m : MapMessage) : Bool :=
  match m.format with
  | none => true
  | some format => format.isEmpty

/-- The text of the message. -/
def text? (m : MapMessage) : Option String :=
  (if m.isPromoting then m.get? textKey else m.format).filter fun text => !text.isEmpty

end MapMessage

/-- The message of a log event. -/
inductive Message where
  /-- A text. -/
  | text (s : String)
  /-- A structured message. -/
  | map (m : MapMessage)

end Telemetry
