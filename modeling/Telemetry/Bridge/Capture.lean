import Telemetry.Bridge.Emitter

/-!
# Capturing events

What an instrumented logging framework calls for each event. Only the outermost call on a thread
captures, and no panic of an event or of a sink reaches the application; what the application's own
code does inside an intercepted call is its own business and passes unchanged.
-/

namespace Telemetry.Bridge

open Host

variable {α β : Type}

/-- The record of an event, without emitting it. -/
def mapEvent (id : BridgeId) (event : Event) : Attempt (Host α) Record := do
  let here := (← get).here.info
  Attempt.focus ((bridgePlace id).comp (mapperPlace event.framework)) (Mapper.map here event)

/-- Maps and emits an event that the sink takes, and answers whether it did. -/
def mapAndEmit (id : BridgeId) (echo : Attempt (Host α) Unit) (event : Event) :
    Attempt (Host α) Bool := do
  let level ← event.level
  let severity := level.bind fun level => event.framework.ladder.severity? level.value
  let loggerName ← event.loggerName
  if ← accepts id loggerName severity then
    let record ← mapEvent id event
    emitWith id echo record loggerName
    return true
  else return false

/-- Maps and emits an event behind a boundary. A panic is reported, and nothing was captured. -/
def emitEvent (id : BridgeId) (echo : Attempt (Host α) Unit) (event : Event) :
    Attempt (Host α) Bool := do
  match ← Attempt.outcome (mapAndEmit id echo event) with
  | .ok captured => pure captured
  | .error panic =>
    report (.capturePanicked event.framework panic.message)
    return false

/-- Captures an event, unless another capture is in progress on the thread. -/
def captureWith (id : BridgeId) (echo : Attempt (Host α) Unit) (event : Event) :
    Attempt (Host α) Bool :=
  guarded logRecord fun call => do
    if call.isOutermost then emitEvent id echo event
    else
      report (.nestedCaptureSkipped call.depth)
      return false

/-- What the sink of a bridge does after it has emitted a record. -/
def echo (id : BridgeId) : Attempt (Host α) Unit := do
  let host ← get
  match (host.bridge id).sink.echo with
  | some event =>
    let captured ← captureWith id (pure ()) (event host.here.info)
    note (.echoed id captured)
  | none => pure ()

/-- Captures an event, and answers whether a record was handed to the sink. -/
def capture (id : BridgeId) (event : Event) : Attempt (Host α) Bool :=
  captureWith id (echo id) event

/-- Emits a record. -/
def emit (id : BridgeId) (record : Record) (loggerName : Option String) :
    Attempt (Host α) Unit :=
  emitWith id (echo id) record loggerName

/-- Captures an event, then runs `body` while the capture is still in progress, so that what `body`
logs is not captured again. -/
def intercept (id : BridgeId) (event : Event) (body : Attempt (Host α) β) :
    Attempt (Host α) β :=
  guarded logRecord fun call => do
    if call.isOutermost then discard (emitEvent id (echo id) event)
    body

end Telemetry.Bridge
