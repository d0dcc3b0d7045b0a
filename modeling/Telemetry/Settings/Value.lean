import Telemetry.Text.Blank
import Telemetry.Text.Quoted

/-!
# Setting names and values

How a setting is called in the environment, and how its text reads as a truth value or as a list.
-/

namespace Telemetry

/-- Why a setting cannot be used. -/
inductive SettingError where
  /-- The value is not a truth value. -/
  | invalidBoolean (key value : String)
  /-- The value is not a Unicode text. -/
  | notUnicode (key : String)
deriving DecidableEq, Repr

/-- The text that reports the error. -/
def SettingError.message : SettingError → String
  | invalidBoolean key value =>
    "invalid boolean " ++ Text.quote value ++ " for setting " ++ key
  | notUnicode key => "value of setting " ++ key ++ " is not valid unicode"

namespace Setting

/-- What the name of every setting begins with. -/
def namePrefix : String := "OTEL_INSTRUMENTATION"

/-- A part of a setting's name as it is spelt in the environment: in upper case, with an underscore
for each dot and hyphen. -/
def spell (part : String) : String :=
  part.map fun c => if c = '.' ∨ c = '-' then '_' else c.toUpper

/-- The environment variable of a setting of an instrumentation. -/
def name (instrumentation setting : String) : String :=
  namePrefix ++ "_" ++ spell instrumentation ++ "_" ++ spell setting

/-- Whether two texts are equal but for the case of ASCII letters. -/
def sameIgnoringCase (cs ds : List Char) : Bool := cs.map Char.toLower = ds.map Char.toLower

/-- Reads a truth value, in any case and with blanks around it. -/
def parseBool (key value : String) : Except SettingError Bool :=
  let word := Text.trim value.toList
  if sameIgnoringCase word "true".toList then .ok true
  else if sameIgnoringCase word "false".toList then .ok false
  else .error (.invalidBoolean key (String.ofList word))

/-- The parts of a text between its commas. -/
def splitAtCommas : List Char → List (List Char)
  | [] => [[]]
  | ',' :: rest => [] :: splitAtCommas rest
  | c :: rest =>
    match splitAtCommas rest with
    | part :: parts => (c :: part) :: parts
    | [] => [[c]]

/-- Reads a list: the parts between commas without the blanks around them, empty parts left out. -/
def parseList (value : String) : List String :=
  (((splitAtCommas value.toList).map Text.trim).filter (· ≠ [])).map String.ofList

end Setting

end Telemetry
