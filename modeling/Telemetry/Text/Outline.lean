import Telemetry.Text.Quoted

/-!
# Outlines

The one-line description of a value that is made of named parts: the name of its type, then its
parts in braces.
-/

namespace Telemetry.Text

/-- The parts of a description, in braces after the name. -/
private def braced (name : String) (parts : List String) : String :=
  name ++ " \x7b " ++ ", ".intercalate parts ++ " \x7d"

/-- A named part of a description. -/
private def part (field : String × String) : String := field.1 ++ ": " ++ field.2

/-- The description of a value with these fields, each already described. -/
def outline (name : String) (fields : List (String × String)) : String :=
  braced name (fields.map part)

/-- The description of a value of which only some fields are shown. -/
def outlinePartly (name : String) (fields : List (String × String)) : String :=
  braced name (fields.map part ++ [".."])

/-- The description of a list, from those of its members. -/
def outlineList (items : List String) : String := "[" ++ ", ".intercalate items ++ "]"

/-- The description of an optional text. -/
def outlineOption : Option String → String
  | some s => "Some(" ++ quote s ++ ")"
  | none => "None"

example : outline "Point" [("x", "1"), ("y", "2")] = "Point \x7b x: 1, y: 2 \x7d" := by decide

end Telemetry.Text
