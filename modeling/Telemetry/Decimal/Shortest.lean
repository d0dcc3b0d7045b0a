import Telemetry.Double

/-!
# The shortest decimal of a binary floating-point number

A finite binary floating-point number stands for every real that rounds to it. `Decimal.shortest`
finds the decimal with the fewest digits in that interval and, of several with as few digits, the
one nearest to the number itself. All arithmetic is exact, on natural numbers.

On a grid of decimals the candidates are the two neighbours of the number: if any point of the
grid lies in the interval, one of them does.
-/

namespace Telemetry

/-- The number `digits · 10 ^ exponent`. -/
structure Decimal where
  /-- The significant digits, read as one number. -/
  digits : Nat
  /-- The power of ten that scales them. -/
  exponent : Int
deriving DecidableEq, Repr

namespace Decimal

/-- How many decimal digits a natural number has. -/
def digitCount (n : Nat) : Nat := (Nat.toDigits 10 n).length

/-- A positive rational number `num / den`, with the bounds of its rounding interval over the same
denominator. -/
structure Interval where
  /-- The least real that may round to the number, over `den`. -/
  low : Nat
  /-- The number itself, over `den`. -/
  num : Nat
  /-- The greatest real that may round to the number, over `den`. -/
  high : Nat
  /-- The common denominator. -/
  den : Nat
  /-- Whether the bounds themselves round to the number. -/
  closed : Bool
deriving DecidableEq, Repr

namespace Interval

/-- The reals that round to the number. Halfway cases go to the even significand. -/
def ofMagnitude (m : Double.Magnitude) : Interval :=
  let up := Nat.pow 2 (m.exponent - 2).toNat
  { low := (4 * m.significand - if m.narrowBelow then 1 else 2) * up
    num := 4 * m.significand * up
    high := (4 * m.significand + 2) * up
    den := Nat.pow 2 (2 - m.exponent).toNat
    closed := m.significand % 2 = 0 }

/-- Whether `digits · 10 ^ exponent` lies in the interval. -/
def contains (i : Interval) (d : Decimal) : Bool :=
  let point := d.digits * Nat.pow 10 d.exponent.toNat * i.den
  let scale := Nat.pow 10 (-d.exponent).toNat
  if i.closed then i.low * scale ≤ point && point ≤ i.high * scale
  else i.low * scale < point && point < i.high * scale

/-- The integer `e` with `10 ^ e ≤ num / den < 10 ^ (e + 1)`. -/
def magnitude (i : Interval) : Int :=
  let guess : Int := (digitCount i.num : Int) - digitCount i.den
  if i.num * Nat.pow 10 (-guess).toNat < i.den * Nat.pow 10 guess.toNat then guess - 1 else guess

/-- The greatest multiple of `10 ^ exponent` that is not above the number. -/
def floorAt (i : Interval) (exponent : Int) : Decimal :=
  ⟨i.num * Nat.pow 10 (-exponent).toNat / (i.den * Nat.pow 10 exponent.toNat), exponent⟩

/-- Whether the number lies at least as near to the grid point above as to the one below, so that
a number in the middle counts as near to the one above. -/
def isNearAbove (i : Interval) (exponent : Int) : Bool :=
  let unit := i.den * Nat.pow 10 exponent.toNat
  unit ≤ 2 * (i.num * Nat.pow 10 (-exponent).toNat % unit)

/-- The neighbour of the number on the grid of multiples of `10 ^ exponent` that lies in the
interval; of two such neighbours the nearer one, and the upper one if they are equally near. -/
def onGrid? (i : Interval) (exponent : Int) : Option Decimal :=
  let below := i.floorAt exponent
  let above : Decimal := ⟨below.digits + 1, exponent⟩
  match i.contains below, i.contains above with
  | false, false => none
  | true, false => some below
  | false, true => some above
  | true, true => some (if i.isNearAbove exponent then above else below)

end Interval

/-- The same decimal without the zeros its digits end in. -/
def normalize (d : Decimal) : Decimal :=
  if d.digits ≠ 0 ∧ d.digits % 10 = 0 then normalize ⟨d.digits / 10, d.exponent + 1⟩ else d
termination_by d.digits
decreasing_by simp_all; omega

/-- The decimal with the fewest digits that rounds to the number. Seventeen digits always suffice,
so the floor of the number on the grid of eighteen digits is never reached. -/
def shortest (m : Double.Magnitude) : Decimal :=
  let i := Interval.ofMagnitude m
  let hit := (List.range 17).findSome? fun n => i.onGrid? (i.magnitude - (n : Nat))
  (hit.getD (i.floorAt (i.magnitude - 17))).normalize

end Decimal

end Telemetry
