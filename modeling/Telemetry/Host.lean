import Telemetry.Bridge.Basic
import Telemetry.CallDepth
import Telemetry.Statement.Parameters

/-!
# Hosts

The state of an application that hosts instrumentations: the application's own state, the running
thread with its call depths and active spans, the bridges and parameter tables, and a trace of what
happened at their borders. Threads run one at a time, each from its start to its end.
-/

namespace Telemetry

/-- A thread, as far as instrumentations can tell. -/
structure Thread where
  /-- Its name and number. -/
  info : ThreadInfo
  /-- The instrumented calls on its stack. -/
  depths : CallDepths := .empty
  /-- The spans that are active on it, from the innermost outwards. -/
  spans : List Span := []

/-- The number of a parameter table in a host. -/
abbrev TableId := Nat

/-- A host whose application has a state of type `α`. -/
structure Host (α : Type) where
  /-- The state of the application, which no instrumentation touches. -/
  app : α
  /-- The reading of the clock. -/
  clock : Timestamp
  /-- The running thread. -/
  here : Thread
  /-- The number of the next thread that starts. -/
  nextThread : Nat
  /-- The number of the next statement that is prepared. -/
  nextStatement : Nat := 1
  /-- The bridges. -/
  bridge : BridgeId → Bridge
  /-- The tables of pending parameters. -/
  table : TableId → ParameterTable
  /-- What happened so far, in order. -/
  trace : List Happening := []

namespace Host

variable {α β : Type}

/-- The application's own state as a place of the host. -/
def appPlace : Lens (Host α) α where
  get host := host.app
  set app host := { host with app }

/-- A bridge as a place of the host. -/
def bridgePlace (id : BridgeId) : Lens (Host α) Bridge where
  get host := host.bridge id
  set bridge host :=
    { host with bridge := fun other => if other = id then bridge else host.bridge other }

/-- A parameter table as a place of the host. -/
def tablePlace (id : TableId) : Lens (Host α) ParameterTable where
  get host := host.table id
  set table host :=
    { host with table := fun other => if other = id then table else host.table other }

/-- The call depths of the running thread as a place of the host. -/
def depthsPlace : Lens (Host α) CallDepths where
  get host := host.here.depths
  set depths host := { host with here := { host.here with depths } }

/-- The span that is active on the running thread. -/
def activeSpan? (host : Host α) : Option Span := host.here.spans.head?

/-- Adds to the trace. -/
def note (happening : Happening) : Attempt (Host α) Unit :=
  modify fun host => { host with trace := host.trace ++ [happening] }

/-- Reports a diagnostic. -/
def report (diagnostic : Diagnostic) : Attempt (Host α) Unit := note (.reported diagnostic)

/-- Gives out the number of a new statement. -/
def prepareStatement : Attempt (Host α) StatementId :=
  modifyGet fun host =>
    (⟨host.nextStatement⟩, { host with nextStatement := host.nextStatement + 1 })

/-- Runs `body` as an instrumented call of a kind. The call ends when `body` does, with a value or
with a panic. -/
def guarded (kind : CallKind) (body : Call → Attempt (Host α) β) : Attempt (Host α) β := do
  let call ← Attempt.focus depthsPlace (modifyGet (·.enter kind))
  (body call).ensuring fun host => depthsPlace.set (host.here.depths.leave call) host

/-- Runs `body` on a new thread until it ends, and answers how it ended. The thread starts without
instrumented calls and without an active span. -/
def onThread (name : Option String) (body : Attempt (Host α) β) :
    Attempt (Host α) (Except Panic β) := do
  let caller := (← get).here
  let result ← Attempt.outcome <| Attempt.ensuring
    (do
      modify fun host =>
        { host with
          here := { info := { name, id := some host.nextThread } }
          nextThread := host.nextThread + 1 }
      body)
    fun host => { host with here := caller }
  return result

/-- Runs `body` with a span active, and answers how it ended and what became of the span. -/
def underSpan (span : Span) (body : Attempt (Host α) β) :
    Attempt (Host α) (Except Panic β × Span) := do
  modify fun host => { host with here := { host.here with spans := span :: host.here.spans } }
  let result ← body.outcome
  modifyGet fun host =>
    ((result, host.activeSpan?.getD span),
      { host with here := { host.here with spans := host.here.spans.tail } })

end Host

end Telemetry
