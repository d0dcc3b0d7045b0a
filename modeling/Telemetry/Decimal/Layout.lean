import Telemetry.Decimal.Shortest

/-!
# Writing decimals

A `Layout` decides what a decimal looks like: which magnitudes are written positionally, and that a
whole number keeps a fractional part. `Layout.write` writes a floating-point number in it.
-/

namespace Telemetry.Decimal

/-- The decisions of a number format. A decimal `d.ddd · 10 ^ e` is written positionally for `e`
from `least` up to, but not including, `limit`. -/
structure Layout where
  /-- The least exponent that is written positionally. -/
  least : Int
  /-- The least exponent above it that is not. -/
  limit : Int
  /-- The mark between significand and exponent. -/
  exponentMark : String
  /-- The text of a value that is not a number. -/
  nan : String
  /-- The text of the positive infinity. -/
  infinity : String
deriving DecidableEq, Repr

namespace Layout

/-- The digits of a decimal with a point after the first `whole` of them; zeros fill up a side that
has no digit. -/
private def pointAfter (digits : String) (whole : Int) : String :=
  let cs := digits.toList
  if whole ≤ 0 then
    "0." ++ String.ofList (List.replicate (-whole).toNat '0') ++ digits
  else if (cs.length : Int) ≤ whole then
    digits ++ String.ofList (List.replicate (whole.toNat - cs.length) '0') ++ ".0"
  else
    String.ofList (cs.take whole.toNat) ++ "." ++ String.ofList (cs.drop whole.toNat)

/-- The text of a positive decimal. -/
def writeDecimal (layout : Layout) (d : Decimal) : String :=
  let digits := toString d.digits
  let exponent := d.exponent + digits.length - 1
  if layout.least ≤ exponent ∧ exponent < layout.limit then
    pointAfter digits (exponent + 1)
  else
    let significand := match digits.toList with
      | first :: second :: rest => String.ofList (first :: '.' :: second :: rest)
      | _ => digits
    significand ++ layout.exponentMark ++ toString exponent

/-- The text of a floating-point number: the shortest digits that read back, laid out. -/
def write (layout : Layout) (x : Double) : String :=
  match x.reading with
  | .nan => layout.nan
  | .infinite negative => sign negative ++ layout.infinity
  | .zero negative => sign negative ++ "0.0"
  | .finite negative magnitude => sign negative ++ layout.writeDecimal (.shortest magnitude)
where
  /-- The sign in front of a number. -/
  sign (negative : Bool) : String := if negative then "-" else ""

end Layout

end Telemetry.Decimal
