import Telemetry.Event.Basic
import Telemetry.Happening

/-!
# Sinks

A sink is what records are handed to. It is a stranger's code, so each of its four stages may
panic, and it may itself log through the instrumentation while it emits.
-/

namespace Telemetry

/-- What a sink does at each of the stages at which it is called. Each answer may depend on all
that happened before, so that a sink can keep a state of its own. -/
structure Sink where
  /-- Creates the logger of a name. -/
  createLogger : List Happening → String → Except Panic Unit := fun _ _ => .ok ()
  /-- Decides whether a logger takes records of a severity from a target. -/
  accepts : List Happening → Logger → Severity → String → Except Panic Bool := fun _ _ _ _ =>
    .ok true
  /-- Creates an empty record of a logger. -/
  createRecord : List Happening → Logger → Except Panic Unit := fun _ _ => .ok ()
  /-- Emits a record. -/
  emit : List Happening → Emission → Except Panic Unit := fun _ _ => .ok ()
  /-- What the sink logs through the same bridge each time it has emitted a record, on the thread
  that emits. It does not do so again while it is doing it. -/
  echo : Option (ThreadInfo → Event) := none

/-- The name that stands for every logger without a threshold of its own. -/
def Sink.anyLogger : String := "*"

/-- The least severity of each logger: records below it are refused. -/
def Sink.meetsThreshold (thresholds : List (String × Severity)) (logger : Logger)
    (severity : Severity) : Bool :=
  match (thresholds.lookup logger.name).or (thresholds.lookup Sink.anyLogger) with
  | some least => least ≤ severity
  | none => true

end Telemetry
