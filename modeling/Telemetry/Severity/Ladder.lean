import Telemetry.Severity.Basic

/-!
# Severity ladders

Logging frameworks order their levels by an integer. A `Ladder` maps such an integer to a severity:
its steps are bounds from the least to the most severe, and a value takes the severity of the first
step it falls under. Frameworks differ in their steps and in the direction of the scale.
-/

namespace Telemetry

/-- The direction of a scale of level values. -/
inductive Scale where
  /-- Greater values are more severe. -/
  | ascending
  /-- Smaller values are more severe. -/
  | descending
deriving DecidableEq, Repr

/-- Whether a value is at most as severe as a bound. -/
def Scale.AtMost : Scale → Int → Int → Prop
  | ascending, value, bound => value ≤ bound
  | descending, value, bound => bound ≤ value

instance : (scale : Scale) → (value bound : Int) → Decidable (scale.AtMost value bound)
  | .ascending, value, bound => inferInstanceAs (Decidable (value ≤ bound))
  | .descending, value, bound => inferInstanceAs (Decidable (bound ≤ value))

/-- A table of thresholds that maps level values to severities. -/
structure Ladder where
  /-- The direction of the scale. -/
  scale : Scale
  /-- The bounds with their severities, from the least to the most severe. -/
  steps : List (Int × Severity)
  /-- The severity of values that are more severe than every bound. -/
  beyond : Option Severity := none
  /-- The value of the level that turns logging off, which has no severity. -/
  off : Option Int := none
deriving DecidableEq, Repr

/-- The severity of a level value, or none if the value leaves the severity unset. -/
def Ladder.severity? (ladder : Ladder) (value : Int) : Option Severity :=
  if ladder.off = some value then none
  else match ladder.steps.find? fun step => ladder.scale.AtMost value step.1 with
    | some step => some step.2
    | none => ladder.beyond

end Telemetry
