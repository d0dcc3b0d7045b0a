/-!
# Severity

The common scale of severities: six bands of four ranks each, from the least severe to the most.
-/

namespace Telemetry

/-- The bands of the scale, from the least severe to the most. -/
inductive Severity.Band where
  | trace
  | debug
  | info
  | warn
  | error
  | fatal
deriving DecidableEq, Repr

/-- The ranks inside a band, from the least severe to the most. -/
def Severity.Rank : Type := Fin 4
deriving DecidableEq, Repr

/-- Ranks are counted from zero. -/
instance {n : Nat} : OfNat Severity.Rank n := ⟨⟨n % 4, Nat.mod_lt n (Nat.zero_lt_succ 3)⟩⟩

/-- A severity: a band and a rank inside it. -/
structure Severity where
  /-- The band. -/
  band : Severity.Band
  /-- The rank inside the band. -/
  rank : Severity.Rank := 0
deriving DecidableEq, Repr

namespace Severity

/-- The bands in their order. -/
def Band.all : List Band := [.trace, .debug, .info, .warn, .error, .fatal]

/-- The place of a band on the scale, from zero. -/
def Band.index : Band → Nat
  | trace => 0
  | debug => 1
  | info => 2
  | warn => 3
  | error => 4
  | fatal => 5

/-- The name of a band. -/
def Band.name : Band → String
  | trace => "TRACE"
  | debug => "DEBUG"
  | info => "INFO"
  | warn => "WARN"
  | error => "ERROR"
  | fatal => "FATAL"

/-- All severities, in their order. -/
def all : List Severity :=
  Band.all.flatMap fun band => [0, 1, 2, 3].map fun rank => ⟨band, rank⟩

/-- The number of a severity on the scale, from 1 to 24. -/
def number (s : Severity) : Nat := 4 * s.band.index + s.rank.val + 1

/-- The name of a severity: that of its band, numbered from the second rank on. -/
def name (s : Severity) : String :=
  if s.rank = 0 then s.band.name else s.band.name ++ toString (s.rank.val + 1)

/-- The severity of a name. -/
def ofName? (name : String) : Option Severity := all.find? (·.name = name)

instance : LE Severity := ⟨fun a b => a.number ≤ b.number⟩

instance (a b : Severity) : Decidable (a ≤ b) := inferInstanceAs (Decidable (a.number ≤ b.number))

example : all.map number = (List.range 24).map (· + 1) := by decide

example : (all.map name).Nodup := by decide

end Severity

end Telemetry
