import Telemetry.Decimal.Layout

/-!
# Parameter values

The values that are bound to the parameters of a prepared statement, and their text.
-/

namespace Telemetry

/-- A value bound to a parameter. -/
inductive ParameterValue where
  /-- No value. -/
  | null
  /-- A truth value. -/
  | bool (b : Bool)
  /-- An integer. -/
  | int (n : Int)
  /-- A floating-point number. -/
  | float (x : Double)
  /-- A text, the only kind of value that is rendered with quotes. -/
  | text (s : String)
  /-- A sequence of bytes. -/
  | bytes (bs : List UInt8)
  /-- Any other value, by its text. -/
  | other (s : String)
deriving DecidableEq, Repr, Inhabited

namespace ParameterValue

/-- Floating-point numbers have the fewest digits that read back, and a fractional part or an
exponent; they have an exponent below `10 ^ -4` and from `10 ^ 16` on. -/
def floats : Decimal.Layout where
  least := -4
  limit := 16
  exponentMark := "e"
  nan := "NaN"
  infinity := "inf"

/-- A byte as two hexadecimal digits. -/
def hexByte (b : UInt8) : String :=
  String.ofList [Nat.digitChar (b.toNat / 16), Nat.digitChar (b.toNat % 16)]

/-- The text of a value. -/
def display : ParameterValue → String
  | null => "null"
  | bool b => toString b
  | int n => toString n
  | float x => floats.write x
  | text s | other s => s
  | bytes bs => "0x" ++ String.join (bs.map hexByte)

/-- A value as it stands in a list of values. -/
def render : ParameterValue → String
  | text s => "'" ++ s ++ "'"
  | value => value.display

end ParameterValue

end Telemetry
