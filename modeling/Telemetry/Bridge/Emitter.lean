import Telemetry.Host

/-!
# Emitting records

How records reach the sink of a bridge. A panic of the sink never reaches the caller: one that
occurs while a record is handed over is reported, and one that occurs while the sink is asked for a
severity counts as a refusal.
-/

namespace Telemetry.Bridge

open Host

variable {α : Type}

/-- Calls a stage of the sink of a bridge, and leaves a mark of the call. -/
def callSink {β : Type} (id : BridgeId) (mark : Happening)
    (stage : Sink → List Happening → Except Panic β) : Attempt (Host α) β := do
  let host ← get
  note mark
  stage (host.bridge id).sink host.trace

/-- The logger of a name. The sink creates it if the bridge does not remember it. -/
def resolveLogger (id : BridgeId) (name : String) : Attempt (Host α) Logger :=
  Cache.getOrInsert ((bridgePlace id).comp loggersPlace) name do
    callSink id (.loggerRequested id name) (·.createLogger · name)
    return ⟨name⟩

/-- Whether the sink takes records of a severity from the logger of a name. Records without a
severity are always taken, without a question.

This is the build with the feature `spec_unstable_logs_enabled`, in which loggers can be asked.
Without the feature no logger is asked and every record is taken. -/
def accepts (id : BridgeId) (loggerName : Option String) :
    Option Severity → Attempt (Host α) Bool
  | none => pure true
  | some severity => do
    let name := normalizeName loggerName
    let answer ← Attempt.outcome do
      let logger ← resolveLogger id name
      callSink id (.severityChecked id logger severity name) (·.accepts · logger severity name)
    return answer.toOption.getD false

/-- Hands a record to the logger of a name, then runs what the sink does after it has emitted. -/
def handOver (id : BridgeId) (echo : Attempt (Host α) Unit) (record : Record) (name : String) :
    Attempt (Host α) Unit := do
  let logger ← resolveLogger id name
  callSink id (.recordRequested id logger) (·.createRecord · logger)
  let host ← get
  let emission := record.emission logger host.clock (host.activeSpan?.map (·.context))
  let answer := (host.bridge id).sink.emit host.trace emission
  note (.handed id emission answer)
  let () ← answer
  echo

/-- Emits a record through the logger of a name. A panic is reported, and the record is lost. -/
def emitWith (id : BridgeId) (echo : Attempt (Host α) Unit) (record : Record)
    (loggerName : Option String) : Attempt (Host α) Unit := do
  let name := normalizeName loggerName
  match ← Attempt.outcome (handOver id echo record name) with
  | .ok () => pure ()
  | .error panic => report (.emitPanicked name panic.message)

end Telemetry.Bridge
