import Telemetry.Diagnostic
import Telemetry.Record

/-!
# Happenings

What can be observed at the borders of the instrumentations of a host: the calls that they make on
the sinks, and the diagnostics that they report.
-/

namespace Telemetry

/-- The number of a bridge in a host. -/
abbrev BridgeId := Nat

/-- Something that happened at the border of an instrumentation. -/
inductive Happening where
  /-- A sink was asked to create the logger of a name. -/
  | loggerRequested (bridge : BridgeId) (name : String)
  /-- A sink was asked whether a logger takes records of a severity from a target. -/
  | severityChecked (bridge : BridgeId) (logger : Logger) (severity : Severity) (target : String)
  /-- A sink was asked to create an empty record of a logger. -/
  | recordRequested (bridge : BridgeId) (logger : Logger)
  /-- A sink was given a record, and took it or panicked. -/
  | handed (bridge : BridgeId) (emission : Emission) (answer : Except Panic Unit)
  /-- A sink logged an event while emitting, which was captured or not. -/
  | echoed (bridge : BridgeId) (captured : Bool)
  /-- An instrumentation reported a diagnostic. -/
  | reported (diagnostic : Diagnostic)

namespace Happening

/-- The name of the logger that a sink was asked to create. -/
def requestedLogger? : Happening → Option String
  | loggerRequested _ name => some name
  | _ => none

/-- The logger, the severity and the target that a sink was asked about. -/
def severityCheck? : Happening → Option (Logger × Severity × String)
  | severityChecked _ logger severity target => some (logger, severity, target)
  | _ => none

/-- The record that a sink took. -/
def emission? : Happening → Option Emission
  | handed _ emission (.ok ()) => some emission
  | _ => none

/-- Whether the event that a sink logged while emitting was captured. -/
def echo? : Happening → Option Bool
  | echoed _ captured => some captured
  | _ => none

/-- The diagnostic that was reported. -/
def diagnostic? : Happening → Option Diagnostic
  | reported diagnostic => some diagnostic
  | _ => none

end Happening

end Telemetry
