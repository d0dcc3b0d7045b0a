/-!
# 64-bit floating-point numbers

A `Double` is kept by its bits. So each number that is carried from one place to another arrives
as it was: the two zeros stay apart, and a value that is not a number keeps its payload.
`Double.reading` says what the bits stand for, and `Double.ofSingle` widens a 32-bit number.
Powers are `Nat.pow`, which is the same power whatever instances are in scope.
-/

namespace Telemetry

/-- A 64-bit floating-point number, by its bits: sign, eleven bits of exponent, 52 of fraction. -/
structure Double where
  /-- The bits. -/
  bits : UInt64
deriving DecidableEq, Repr, Inhabited

namespace Double

/-- The magnitude of a finite, nonzero number, `significand · 2 ^ exponent`. -/
structure Magnitude where
  /-- The significand, below `2 ^ 53`. -/
  significand : Nat
  /-- The power of two that scales it. -/
  exponent : Int
  /-- Whether the next number below is only half as far away as the next one above. -/
  narrowBelow : Bool
deriving DecidableEq, Repr

/-- A number by kind. -/
inductive Reading where
  /-- Not a number. -/
  | nan
  /-- One of the infinities. -/
  | infinite (negative : Bool)
  /-- One of the zeros. -/
  | zero (negative : Bool)
  /-- Any other number. -/
  | finite (negative : Bool) (magnitude : Magnitude)
deriving DecidableEq, Repr

/-- What the bits stand for. -/
def reading (x : Double) : Reading :=
  let n := x.bits.toNat
  let negative := n / Nat.pow 2 63 == 1
  let biased : Nat := n / Nat.pow 2 52 % Nat.pow 2 11
  let fraction := n % Nat.pow 2 52
  if biased = 2047 then
    if fraction = 0 then .infinite negative else .nan
  else if biased = 0 then
    if fraction = 0 then .zero negative else .finite negative ⟨fraction, -1074, false⟩
  else
    .finite negative
      ⟨Nat.pow 2 52 + fraction, (biased : Int) - 1075, fraction = 0 && 1 < biased⟩

/-- The number with these three fields. -/
def ofFields (sign biased fraction : Nat) : Double :=
  ⟨UInt64.ofNat (sign * Nat.pow 2 63 + biased * Nat.pow 2 52 + fraction)⟩

/-- Widens a 32-bit number, by its bits: sign, eight bits of exponent, 23 of fraction. All numbers
are kept exactly, those too small for a leading one because the wider format has room for it. What
is not a number becomes a quiet one with the same payload. -/
def ofSingle (bits : UInt32) : Double :=
  let n := bits.toNat
  let sign := n / Nat.pow 2 31
  let biased := n / Nat.pow 2 23 % Nat.pow 2 8
  let fraction := n % Nat.pow 2 23
  if biased = 255 then
    ofFields sign 2047
      (if fraction = 0 then 0 else Nat.pow 2 51 + fraction % Nat.pow 2 22 * Nat.pow 2 29)
  else if biased = 0 then
    if fraction = 0 then ofFields sign 0 0
    else
      let top := fraction.log2
      ofFields sign (top + 874) ((fraction - Nat.pow 2 top) * Nat.pow 2 (52 - top))
  else
    ofFields sign (biased + 896) (fraction * Nat.pow 2 29)

example : (ofSingle 0x3fc00000).reading = (Double.mk 0x3ff8000000000000).reading := by decide

example : (ofSingle 1).reading = .finite false ⟨2 ^ 52, -201, true⟩ := by decide

end Double

end Telemetry
