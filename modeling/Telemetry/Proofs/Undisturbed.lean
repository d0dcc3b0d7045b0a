import Telemetry.Proofs.Bridge.Outermost
import Telemetry.Proofs.Program.Unwrapped
import Telemetry.Proofs.Statement.Setters

/-!
# The application is undisturbed

All that instrumentations offer, in one language of programs: captured and intercepted events,
records that are emitted and checks of a severity, bound parameters and statements that run. The
events, the sinks and the active spans may panic wherever they are called.

Main statement: no hook panics, a wrapped body runs once and ends as it ends on its own, and a
program that does not look at what hooks answer is, to the application, the same as the program
without wrappers (`application_undisturbed`).
-/

namespace Telemetry

open Attempt Host Bridge Statement

/-! ## All instrumentations together -/

/-- A hook of any instrumentation. -/
inductive Hook : Type → Type where
  | capture (id : BridgeId) (event : Event) : Hook Bool
  | emit (id : BridgeId) (record : Record) (loggerName : Option String) : Hook Unit
  | accepts (id : BridgeId) (loggerName : Option String) (severity : Option Severity) : Hook Bool
  | bind (binding : Binding) : Hook Unit
  | execute (id : TableId) (statement : StatementId) : Hook (Option String)

/-- A wrapper of any instrumentation. -/
inductive Wrapper where
  | intercept (interception : Interception)
  | bindWith (binding : Binding)

variable {α β : Type}

/-- Calls a hook. -/
def Hook.call : Hook β → Attempt (Host α) β
  | capture id event => Bridge.capture id event
  | emit id record loggerName => Bridge.emit id record loggerName
  | accepts id loggerName severity => Bridge.accepts id loggerName severity
  | bind binding => Statement.bind binding.id binding.statement binding.index binding.value
  | execute id statement => Statement.execute id statement

/-- Runs a body inside of a wrapper. -/
def Wrapper.within : Wrapper → Attempt (Host α) β → Attempt (Host α) β
  | intercept interception => Bridge.intercept interception.id interception.event
  | bindWith binding =>
    Statement.bindWith binding.id binding.statement binding.index binding.value

/-- The kind by which a wrapper counts its bodies. -/
def Wrapper.kind : Wrapper → CallKind
  | intercept _ => logRecord
  | bindWith _ => parameterBind

/-- The host at which the body of a wrapper begins. -/
def Wrapper.enter : Wrapper → Host α → Host α
  | intercept interception => entered interception.id interception.event
  | bindWith binding => binding.bound

instance : Instrumentation Hook Wrapper where
  call := Hook.call
  within := Wrapper.within

instance : Instrumentation Hook Empty where
  call := Hook.call
  within wrapper := nomatch wrapper

/-! ## Hooks and wrappers do not disturb -/

theorem returns_capture (id : BridgeId) (event : Event) :
    Returns (capture (α := α) id event) :=
  returns_captureWith id (echo id) event

theorem returns_emit (id : BridgeId) (record : Record) (loggerName : Option String) :
    Returns (Bridge.emit (α := α) id record loggerName) :=
  fun _ => ⟨(), emitWith_fst⟩

theorem returns_bind (id : TableId) (statement : StatementId) (index : Nat)
    (value : ParameterValue) : Returns (Statement.bind (α := α) id statement index value) := by
  intro host
  rw [Statement.bind, bindWith_apply]
  exact ⟨(), rfl⟩

theorem Hook.returns_call (hook : Hook β) : Returns (hook.call (α := α)) := by
  cases hook with
  | capture id event => exact returns_capture id event
  | emit id record loggerName => exact returns_emit id record loggerName
  | accepts id loggerName severity => exact returns_accepts id loggerName severity
  | bind binding => exact returns_bind _ _ _ _
  | execute id statement => exact returns_execute id statement

theorem Hook.call_sameApp (hook : Hook β) : Keeps SameApp (hook.call (α := α)) := by
  cases hook with
  | capture id event => exact capture_keeps frame_sameApp sameApp_noted event
  | emit id record loggerName => exact emit_keeps frame_sameApp sameApp_noted record loggerName
  | accepts id loggerName severity => exact accepts_keeps frame_sameApp loggerName severity
  | bind binding => exact bindWith_keeps frame_sameApp (frame_sameApp.pure ())
  | execute id statement => exact execute_keeps frame_sameApp

/-- The body of a wrapper runs once, and the wrapper ends as the body does. -/
theorem Wrapper.within_apply (wrapper : Wrapper) (body : Attempt (Host α) β) (host : Host α) :
    wrapper.within body host =
      let ended := body (wrapper.enter host)
      (ended.1, ended.2.uncounted wrapper.kind) := by
  cases wrapper with
  | intercept interception => exact intercept_apply
  | bindWith binding => exact bindWith_apply

/-- The body of a wrapper finds the application as the wrapper found it. -/
theorem Wrapper.enter_sameApp (wrapper : Wrapper) (host : Host α) :
    SameApp host (wrapper.enter host) := by
  cases wrapper with
  | intercept interception =>
    exact frame_sameApp.opened
      (discard_emitEvent_keeps frame_sameApp sameApp_noted interception.event)
  | bindWith binding => exact frame_sameApp.opened (record_keeps frame_sameApp)

instance : Transparent Hook Wrapper where
  returns_call := Hook.returns_call
  call_keeps := Hook.call_sameApp
  call_eq _ := rfl
  within_simulates wrapper x y h host host' happ := by
    show (wrapper.within x host).1 = _ ∧ SameApp (wrapper.within x host).2 _
    rw [wrapper.within_apply]
    -- The body begins where it would have begun without the wrapper, as the application sees it.
    have hentered : SameApp (wrapper.enter host) host' :=
      Eq.trans happ (wrapper.enter_sameApp host).symm
    exact h hentered

/-! ## Whole programs -/

/-- Whatever the events, the sinks and the spans do, and whatever state the bridges, the tables and
the counters are in: capturing, emitting, asking for a severity, binding and running a statement
end without a panic. An intercepted call and a setter do their own step first, which leaves the
application alone, and then they run the body once and end as the body ends. A program that does not
look at what hooks answer ends as it does without wrappers, and with the same state of the
application. -/
theorem application_undisturbed :
    (∀ id event, Returns (capture (α := α) id event)) ∧
    (∀ id record loggerName, Returns (Bridge.emit (α := α) id record loggerName)) ∧
    (∀ id loggerName severity, Returns (accepts (α := α) id loggerName severity)) ∧
    (∀ id statement index value, Returns (Statement.bind (α := α) id statement index value)) ∧
    (∀ id statement, Returns (execute (α := α) id statement)) ∧
    (∀ id event (body : Attempt (Host α) β) host,
      SameApp host (entered id event host) ∧
      intercept id event body host =
        let ended := body (entered id event host)
        (ended.1, ended.2.uncounted logRecord)) ∧
    (∀ id statement index value (body : Attempt (Host α) β) host,
      SameApp host (bound id statement index value host) ∧
      bindWith id statement index value body host =
        let ended := body (bound id statement index value host)
        (ended.1, ended.2.uncounted parameterBind)) ∧
    (∀ p : Program Hook Wrapper α β, p.Oblivious → ∀ host,
      (p.run host).1 = (p.unwrapped.run host).1 ∧
        SameApp (p.run host).2 (p.unwrapped.run host).2) := by
  refine ⟨returns_capture, returns_emit, returns_accepts, returns_bind, returns_execute, ?_, ?_, ?_⟩
  · intro id event body host
    exact ⟨(Wrapper.intercept ⟨id, event⟩).enter_sameApp host, intercept_apply⟩
  · intro id statement index value body host
    exact ⟨(Wrapper.bindWith ⟨id, statement, index, value⟩).enter_sameApp host, bindWith_apply⟩
  · intro p hp host
    exact Program.simulates_unwrapped hp rfl

/-- An application counts, inside of an intercepted call and of a setter, and panics. The accessors
of the intercepted event panic too. -/
def counting : Program Hook Wrapper Nat Nat :=
  .catching
    (.within (.intercept ⟨0, { framework := .log4j2, level := .error (.text "broken") }⟩)
      (.within (.bindWith ⟨0, ⟨1⟩, 1, .null⟩)
        (.act (modify (· + 1)) fun _ => .call (.execute 0 ⟨1⟩) fun _ =>
          (.fail (.text "offline") : Program _ _ _ Unit)) .done) .done)
    fun _ => .act get .done

theorem counting_undisturbed :
    counting.Oblivious ∧
      (counting.run (idle 0)).1 = (counting.unwrapped.run (idle 0)).1 ∧
      (counting.run (idle 0)).1 = .ok 1 := by
  have hoblivious : counting.Oblivious := by
    simp [counting, Program.Oblivious, Program.fail]
  obtain ⟨-, -, -, -, -, -, -, hprogram⟩ := application_undisturbed (α := Nat) (β := Nat)
  have hsame := (hprogram counting hoblivious (idle 0)).1
  have hunwrapped : (counting.unwrapped.run (idle 0)).1 = .ok 1 := by rfl
  exact ⟨hoblivious, hsame, hsame.trans hunwrapped⟩

end Telemetry
