import Telemetry.Bridge.Capture
import Telemetry.Proofs.Host

/-!
# What bridges leave alone

Capturing and emitting never panic, and they keep every frame: what a bridge does shows only in the
bridges and in the trace. The steps before a record is handed over (`accepts_keeps`,
`mapEvent_keeps`, `resolveLogger_keeps`) keep every frame as it is; emitting and capturing as a
whole (`emit_keeps`, `capture_keeps`) keep a frame that also allows for handed records. For that
only the stages of a capture matter: the whole keeps any relation that each stage keeps
(`Bridge.Stagewise`).
-/

namespace Telemetry.Bridge

open Attempt Host

variable {α β : Type} {R : Host α → Host α → Prop} {id : BridgeId}

theorem callSink_apply {mark : Happening} {stage : Sink → List Happening → Except Panic β}
    {host : Host α} :
    callSink id mark stage host = (stage (host.bridge id).sink host.trace, host.noted mark) := rfl

/-! ## Loggers -/

section Logger

variable {name : String} {host : Host α}

/-- A logger that is remembered is not created. -/
theorem resolveLogger_of_hit {logger : Logger}
    (hget : ((host.bridge id).loggers.get name).1 = some logger) :
    resolveLogger id name host =
      (.ok logger, (bridgePlace id).set
        (loggersPlace.set ((host.bridge id).loggers.get name).2 (host.bridge id)) host) := by
  let place : Lens (Host α) (Cache String Logger) := (bridgePlace id).comp loggersPlace
  have hhit : ((place.get host).get name).1 = some logger := hget
  exact Cache.getOrInsert_of_hit _ hhit

/-- A logger that is not remembered is created, and remembered if the sink did not panic. -/
theorem resolveLogger_of_miss (hget : ((host.bridge id).loggers.get name).1 = none) :
    resolveLogger id name host =
      let requested := host.noted (.loggerRequested id name)
      match (host.bridge id).sink.createLogger host.trace name with
      | .ok () => (.ok ⟨name⟩, (bridgePlace id).set
          (loggersPlace.set ((host.bridge id).loggers.insert name ⟨name⟩).2 (host.bridge id))
          requested)
      | .error panic => (.error panic, requested) := by
  let place : Lens (Host α) (Cache String Logger) := (bridgePlace id).comp loggersPlace
  have hsame : place.set (place.get host) host = host := bridge_set_self
  have hmiss : ((place.get host).get name).1 = none := hget
  rw [resolveLogger, Cache.getOrInsert_of_miss _ hmiss, hsame, bind_apply, callSink_apply]
  cases (host.bridge id).sink.createLogger host.trace name <;> rfl

/-- Looking for a logger takes place where it began, and takes no time. -/
theorem resolveLogger_samePlace (id : BridgeId) (name : String) :
    Keeps (SamePlace (α := α)) (resolveLogger id name) := by
  intro host
  cases hget : ((host.bridge id).loggers.get name).1 with
  | some logger =>
    rw [resolveLogger_of_hit hget]
    exact ⟨rfl, rfl⟩
  | none =>
    rw [resolveLogger_of_miss hget]
    cases (host.bridge id).sink.createLogger host.trace name <;> exact ⟨rfl, rfl⟩

end Logger

/-! ## Steps before a record is handed over -/

section Frame

variable (hR : Frame R)
include hR

theorem callSink_keeps {mark : Happening} (hmark : mark.handover? = none)
    (stage : Sink → List Happening → Except Panic β) : Keeps R (callSink id mark stage) :=
  fun host => hR.noted mark host hmark

theorem report_keeps (diagnostic : Diagnostic) : Keeps R (report (α := α) diagnostic) :=
  fun host => hR.noted (.reported diagnostic) host rfl

theorem resolveLogger_keeps (name : String) : Keeps R (resolveLogger id name) := by
  intro host
  have hrequested : R host (host.noted (.loggerRequested id name)) := hR.noted _ host rfl
  cases hget : ((host.bridge id).loggers.get name).1 with
  | some logger =>
    rw [resolveLogger_of_hit hget]
    exact hR.bridge id _ host (evolves_getLogger name)
  | none =>
    rw [resolveLogger_of_miss hget]
    cases hcreated : (host.bridge id).sink.createLogger host.trace name with
    | ok =>
      exact hR.trans _ _ _ hrequested (hR.bridge id _ _ (evolves_insertLogger hcreated))
    | error panic => exact hrequested

theorem accepts_keeps (loggerName : Option String) (severity : Option Severity) :
    Keeps R (accepts id loggerName severity) := by
  cases severity with
  | none => exact hR.pure true
  | some severity =>
    refine hR.bind (Keeps.outcome ?_) fun _ => hR.pure _
    exact hR.bind (resolveLogger_keeps hR _) fun _ => callSink_keeps hR rfl _

theorem mapEvent_keeps (event : Event) : Keeps R (mapEvent id event) :=
  fun host => hR.bridge id _ host (evolves_setMapper fun _ hm => hm.map _ event)

/-! ## Steps that hand records over -/

variable (hnoted : ∀ happening host, R host (noted happening host))
include hnoted

omit hR in
theorem note_keeps (happening : Happening) : Keeps R (note happening) := hnoted happening

theorem handOver_keeps {echo : Attempt (Host α) Unit} (hecho : Keeps R echo) (record : Record)
    (name : String) : Keeps R (handOver id echo record name) := by
  refine hR.bind (resolveLogger_keeps hR name) fun logger => ?_
  refine hR.bind (callSink_keeps hR rfl _) fun _ => ?_
  refine hR.bind hR.get fun host => ?_
  refine hR.bind (note_keeps hnoted _) fun _ => ?_
  exact hR.bind (hR.liftM _) fun _ => hecho

end Frame

/-! ## Whole captures -/

/-- What a sink does after it has emitted comes after the handing over. -/
theorem handOver_eq_bind {echo : Attempt (Host α) Unit} {record : Record} {name : String} :
    handOver id echo record name = handOver id (pure ()) record name >>= fun _ => echo := by
  simp only [handOver, bind_assoc, pure_bind]

/-- A relation that every stage of a capture keeps, and so everything that a bridge does to emit and
to capture. -/
structure Stagewise (id : BridgeId) (R : Host α → Host α → Prop) : Prop where
  refl : ∀ host, R host host
  trans : ∀ a b c, R a b → R b c → R a c
  guarded : ∀ host host', R (host.counted logRecord) host' → R host (host'.uncounted logRecord)
  report : ∀ diagnostic, Keeps R (report diagnostic)
  echoed : ∀ captured, Keeps R (note (.echoed id captured))
  accepts : ∀ loggerName severity, Keeps R (accepts id loggerName severity)
  mapEvent : ∀ event, Keeps R (mapEvent id event)
  handOver : ∀ record name, Keeps R (handOver id (pure ()) record name)

section Stagewise

variable (hR : Stagewise id R)
include hR

theorem Stagewise.pure (b : β) : Keeps R (Pure.pure b : Attempt (Host α) β) := hR.refl

theorem Stagewise.liftM (outcome : Except Panic β) :
    Keeps R (MonadLiftT.monadLift outcome : Attempt (Host α) β) := hR.refl

theorem Stagewise.get : Keeps R (MonadState.get : Attempt (Host α) (Host α)) := hR.refl

theorem Stagewise.bind {γ : Type} {x : Attempt (Host α) β} (hx : Keeps R x)
    {f : β → Attempt (Host α) γ} (hf : ∀ b, Keeps R (f b)) : Keeps R (x >>= f) :=
  Keeps.bind hR.trans hx hf

theorem Stagewise.emitWith {echo : Attempt (Host α) Unit} (hecho : Keeps R echo) (record : Record)
    (loggerName : Option String) : Keeps R (emitWith id echo record loggerName) := by
  have hhanded : Keeps R (Bridge.handOver id echo record (normalizeName loggerName)) := by
    rw [handOver_eq_bind]
    exact hR.bind (hR.handOver record _) fun _ => hecho
  refine hR.bind (Keeps.outcome hhanded) ?_
  rintro (panic | _)
  · exact hR.report _
  · exact hR.pure ()

theorem Stagewise.mapAndEmit {echo : Attempt (Host α) Unit} (hecho : Keeps R echo)
    (event : Event) : Keeps R (mapAndEmit id echo event) := by
  refine hR.bind (hR.liftM _) fun level => ?_
  refine hR.bind (hR.liftM _) fun loggerName => ?_
  refine hR.bind (hR.accepts loggerName _) fun accepted => ?_
  cases accepted with
  | false => exact hR.pure false
  | true =>
    refine hR.bind (hR.mapEvent event) fun record => ?_
    exact hR.bind (hR.emitWith hecho record loggerName) fun _ => hR.pure true

theorem Stagewise.emitEvent {echo : Attempt (Host α) Unit} (hecho : Keeps R echo)
    (event : Event) : Keeps R (emitEvent id echo event) := by
  refine hR.bind (Keeps.outcome (hR.mapAndEmit hecho event)) ?_
  rintro (panic | captured)
  · exact hR.bind (hR.report _) fun _ => hR.pure false
  · exact hR.pure captured

theorem Stagewise.captureWith {echo : Attempt (Host α) Unit} (hecho : Keeps R echo)
    (event : Event) : Keeps R (captureWith id echo event) := by
  intro host
  rw [Bridge.captureWith, guarded_apply]
  refine hR.guarded _ _ ?_
  split
  · -- The call is outermost.
    exact hR.emitEvent hecho event _
  · exact hR.bind (hR.report _) (fun _ => hR.pure false) _

theorem Stagewise.echo : Keeps R (echo (α := α) id) := by
  refine hR.bind hR.get fun host => ?_
  split
  · exact hR.bind (hR.captureWith (hR.pure ()) _) fun captured => hR.echoed captured
  · exact hR.pure ()

theorem Stagewise.emit (record : Record) (loggerName : Option String) :
    Keeps R (emit (α := α) id record loggerName) :=
  hR.emitWith hR.echo record loggerName

end Stagewise

section Frame

variable (hR : Frame R) (hnoted : ∀ happening host, R host (noted happening host))
include hR hnoted

/-- The stages of a capture keep a frame that allows for everything that is noted. -/
theorem stagewise_of_frame : Stagewise id R where
  refl := hR.refl
  trans := hR.trans
  guarded := hR.guarded logRecord
  report := report_keeps hR
  echoed captured := note_keeps hnoted (.echoed id captured)
  accepts := accepts_keeps hR
  mapEvent := mapEvent_keeps hR
  handOver := handOver_keeps hR hnoted (hR.pure ())

theorem capture_keeps (event : Event) : Keeps R (capture (α := α) id event) :=
  have hstages := stagewise_of_frame hR hnoted
  hstages.captureWith hstages.echo event

theorem emit_keeps (record : Record) (loggerName : Option String) :
    Keeps R (emit (α := α) id record loggerName) :=
  (stagewise_of_frame hR hnoted).emit record loggerName

/-- What an intercepted call does before its body keeps what capturing keeps. -/
theorem discard_emitEvent_keeps (event : Event) :
    Keeps R (discard (emitEvent (α := α) id (echo id) event)) :=
  have hstages := stagewise_of_frame hR hnoted
  (hstages.emitEvent hstages.echo event).discard

end Frame

/-- What a sink does after it has emitted comes after everything that happened before. -/
theorem echo_grownTrace (id : BridgeId) (host : Host α) : GrownTrace host (echo id host).2 :=
  (stagewise_of_frame frame_grownTrace grownTrace_noted).echo host

end Telemetry.Bridge
