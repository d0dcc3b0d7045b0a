import Telemetry.Proofs.Bridge.Admission
import Telemetry.Proofs.Program.Visits

/-!
# Records come from outermost calls

Programs that capture events and intercept calls, nested in any way, on any thread, and with panics
that end any of them. A call is outermost if no interception encloses it on its thread.

* `Bridge.CaptureHook`, `Bridge.Interception`: the calls, with `Bridge.entered`, the host at which
  the body of an intercepted call begins.
* `Visit.Emits`: the records that one call must hand over. An outermost call hands over one record
  if its event is admitted; every other call hands over none.

Main statement: over a whole run, the sinks are given the records of the calls, in the order in
which the calls begin, and each before anything that the call encloses
(`Bridge.outermost_calls_emit_once`).
-/

namespace Telemetry

namespace Bridge

open Attempt Host

variable {α β : Type} {id : BridgeId} {event : Event} {host : Host α}

/-! ## Capturing and intercepting as an instrumentation -/

/-- Captures an event, and answers whether a record was handed to the sink. -/
inductive CaptureHook : Type → Type where
  | capture (id : BridgeId) (event : Event) : CaptureHook Bool

/-- An intercepted call of a logging framework. -/
structure Interception where
  /-- The bridge that intercepts the call. -/
  id : BridgeId
  /-- The event that is captured before the call. -/
  event : Event

/-- The host at which the body of an intercepted call begins. Its event is captured by then, unless
another capture is in progress. -/
def entered (id : BridgeId) (event : Event) (host : Host α) : Host α :=
  host.opened logRecord (discard (emitEvent id (echo id) event))

/-- The body of an intercepted call runs once, and the call ends as the body does. -/
theorem intercept_apply {body : Attempt (Host α) β} :
    intercept id event body host =
      let ended := body (entered id event host)
      (ended.1, ended.2.uncounted logRecord) :=
  guarded_opened_apply (returns_emitEvent id (echo id) event).discard

/-- Within a capture in progress, `capture` only reports that it was skipped; else it does what an
intercepted call does before its body. -/
theorem capture_apply :
    capture id event host =
      if host.here.depths.current logRecord = 0 then
        ((emitEvent id (echo id) event (host.counted logRecord)).1,
          (entered id event host).uncounted logRecord)
      else (.ok false, ((entered id event host).noted (.reported (.nestedCaptureSkipped
        (host.here.depths.current logRecord)))).uncounted logRecord) := by
  rw [entered, opened]
  split
  next hdepth =>
    rw [capture, captureWith, guarded_apply, discard_snd]
    simp only [Call.isOutermost, hdepth, decide_true, if_true]
  next hdepth => exact captureWith_nested hdepth

/-- Until a body begins, one more call is counted. -/
theorem current_entered :
    (entered id event host).here.depths.current logRecord =
      host.here.depths.current logRecord + 1 :=
  current_opened (discard_emitEvent_keeps frame_sameDepths sameDepths_noted event)

/-- A call of `capture` is over when it returns. -/
theorem current_capture :
    (capture id event host).2.here.depths.current logRecord =
      host.here.depths.current logRecord :=
  capture_keeps frame_sameDepths sameDepths_noted event host logRecord

/-- Both calls hand over the same. -/
theorem capture_handovers :
    (capture id event host).2.handovers = (entered id event host).handovers := by
  rw [capture_apply]
  split
  · rfl
  · exact frame_sameHandovers.noted _ (entered id event host) rfl

/-- A call hands over one record before its body if no other capture is in progress and its event
is admitted, and none otherwise. -/
theorem entered_handovers (id : BridgeId) (event : Event) (host : Host α) :
    (∃ emission, host.here.depths.current logRecord = 0 ∧
      Admits id event emission (host.counted logRecord) ∧
      (entered id event host).handovers = host.handovers ++ [(id, emission)]) ∨
    ((∀ emission, host.here.depths.current logRecord = 0 →
      ¬ Admits id event emission (host.counted logRecord)) ∧
      SameHandovers host (entered id event host)) := by
  rw [entered, opened]
  by_cases hdepth : host.here.depths.current logRecord = 0
  · -- No interception encloses the call, so whether its event is admitted decides.
    rw [if_pos hdepth, discard_snd]
    have hcounted : (host.counted logRecord).here.depths.current logRecord ≠ 0 :=
      current_counted_ne_zero
    obtain ⟨emission, hadmits, hhanded⟩ | ⟨hnone, hsame⟩ := emitEvent_handovers hcounted
    · exact Or.inl ⟨emission, hdepth, hadmits, hhanded⟩
    · exact Or.inr ⟨fun emission _ => hnone emission, hsame⟩
  · -- An interception encloses the call, whatever its event is.
    rw [if_neg hdepth]
    exact Or.inr ⟨fun emission h => absurd h hdepth, rfl⟩

/-- An outermost capture whose event is admitted answers that it captured it, and hands over its
record. -/
theorem capture_of_admits {emission : Emission} (hdepth : host.here.depths.current logRecord = 0)
    (hadmits : Admits id event emission (host.counted logRecord)) :
    (capture id event host).1 = .ok true ∧
      (capture id event host).2.handovers = host.handovers ++ [(id, emission)] := by
  constructor
  · obtain ⟨loggerName, record, host₁, hpasses, -⟩ := hadmits
    rw [capture_apply, if_pos hdepth, emitEvent_of_passes hpasses]
  · rw [capture_handovers]
    obtain ⟨emission', -, hadmits', hgiven⟩ | ⟨hnone, -⟩ := entered_handovers id event host
    · rw [hgiven, hadmits'.unique hadmits]
    · exact absurd hadmits (hnone emission hdepth)

instance : Nesting CaptureHook Interception where
  call | .capture id event => capture id event
  within wrapper body := intercept wrapper.id wrapper.event body
  kind := logRecord
  enter wrapper host := entered wrapper.id wrapper.event host
  within_apply _ _ _ := intercept_apply
  current_enter _ _ := current_entered
  current_call | .capture _ _, _ => current_capture

end Bridge

/-! ## What a call hands over -/

section Visits

open Attempt Bridge Host

variable {α β : Type} {visit : Visit CaptureHook Interception α}

/-- The bridge that a call uses, and the event that it captures. -/
def Callee.captured : Callee CaptureHook Interception → BridgeId × Event
  | .hook (.capture id event) => (id, event)
  | .wrapper interception => (interception.id, interception.event)

/-- The call is outermost, and the record of its event is handed over as `emission`. -/
def Visit.Admits (visit : Visit CaptureHook Interception α) (emission : Emission) : Prop :=
  visit.enclosing = [] ∧
    Bridge.Admits visit.callee.captured.1 visit.callee.captured.2 emission
      (visit.host.counted logRecord)

/-- The records that a call hands over: one if it is outermost and its event is admitted, and none
otherwise. -/
def Visit.Emits (visit : Visit CaptureHook Interception α)
    (emissions : List (BridgeId × Emission)) : Prop :=
  (∃ emission, visit.Admits emission ∧ emissions = [(visit.callee.captured.1, emission)]) ∨
    ((∀ emission, ¬ visit.Admits emission) ∧ emissions = [])

/-- The records that calls hand over, in the order in which the calls begin. -/
inductive Bridge.Emitted :
    List (Visit CaptureHook Interception α) → List (BridgeId × Emission) → Prop
  | nil : Emitted [] []
  | cons {visit later batch emissions} (first : visit.Emits batch)
      (rest : Emitted later emissions) : Emitted (visit :: later) (batch ++ emissions)

/-- What a call hands over on its own account is handed over once its body begins. -/
theorem Visit.after_handovers :
    visit.after.handovers =
      (entered visit.callee.captured.1 visit.callee.captured.2 visit.host).handovers := by
  obtain ⟨callee, enclosing, host⟩ := visit
  cases callee with
  | hook hook =>
    cases hook with
    | capture id event => exact capture_handovers
  | wrapper interception => rfl

/-- A call hands over what it must before anything that it encloses begins. -/
theorem Visit.Nested.emits (h : visit.Nested) :
    ∃ emissions, visit.Emits emissions ∧
      visit.after.handovers = visit.host.handovers ++ emissions := by
  rw [Visit.after_handovers]
  obtain ⟨emission, hdepth, hadmits, hhanded⟩ | ⟨hnone, hsame⟩ :=
    entered_handovers visit.callee.captured.1 visit.callee.captured.2 visit.host
  · exact ⟨_, Or.inl ⟨emission, ⟨h.enclosing_eq_nil_iff.mpr hdepth, hadmits⟩, rfl⟩, hhanded⟩
  · refine ⟨[], Or.inr ⟨fun emission hadmits => ?_, rfl⟩, ?_⟩
    · exact hnone emission (h.enclosing_eq_nil_iff.mp hadmits.1) hadmits.2
    · rw [List.append_nil]
      exact hsame

/-- A call of `capture` answers in any case, and it answers `true` just if it is outermost and its
event passes, however emitting the record ends. -/
theorem Visit.Nested.capture_answer {id : BridgeId} {event : Event} {enclosing : List Interception}
    {host : Host α}
    (h : Visit.Nested (⟨.hook (.capture id event), enclosing, host⟩ :
      Visit CaptureHook Interception α)) :
    ∃ captured, (capture id event host).1 = .ok captured ∧
      (captured = true ↔ enclosing = [] ∧ ∃ loggerName record host',
        Passes id event loggerName record (host.counted logRecord) host') := by
  rw [capture_apply]
  by_cases hdepth : host.here.depths.current logRecord = 0
  · obtain ⟨captured, hcaptured, hiff⟩ :=
      @emitEvent_answer α id event (host.counted logRecord) (echo id)
    have houtermost : enclosing = [] := h.enclosing_eq_nil_iff.mpr hdepth
    refine ⟨captured, by rw [if_pos hdepth, hcaptured], ?_⟩
    rw [hiff, and_iff_right houtermost]
  · refine ⟨false, by rw [if_neg hdepth], nofun, fun hpasses => ?_⟩
    exact absurd (h.enclosing_eq_nil_iff.mp hpasses.1) hdepth

/-! ## Whole runs -/

/-- The sinks were given `emissions` since they had been given `initial`. -/
def Bridge.HandedSince (initial : List (BridgeId × Emission)) (host : Host α)
    (emissions : List (BridgeId × Emission)) : Prop :=
  host.handovers = initial ++ emissions

/-- A call adds the records that it hands over. -/
def Visit.Adds (visit : Visit CaptureHook Interception α)
    (emissions emissions' : List (BridgeId × Emission)) : Prop :=
  ∃ batch, visit.Emits batch ∧ emissions' = emissions ++ batch

/-- A chronicle of records ends with those that the calls hand over. -/
theorem Chronicle.emitted {initial emissions emissions' : List (BridgeId × Emission)}
    {visits : List (Visit CaptureHook Interception α)}
    (h : Chronicle (HandedSince initial) Visit.Adds visits emissions emissions') :
    ∃ added, Emitted visits added ∧ emissions' = emissions ++ added := by
  induction h with
  | nil => exact ⟨[], .nil, (List.append_nil _).symm⟩
  | cons nested before step after rest ih =>
    obtain ⟨batch, hbatch, rfl⟩ := step
    obtain ⟨added, hadded, rfl⟩ := ih
    exact ⟨batch ++ added, .cons hbatch hadded, List.append_assoc _ _ _⟩

/-- The records that the sinks are given in a run have a chronicle. -/
theorem Bridge.chronicled_emissions (p : Program CaptureHook Interception α β) {host : Host α}
    (hhost : host.here.depths.current logRecord = 0) :
    Chronicled (HandedSince host.handovers) Visit.Adds 0 [] (p.visits [] host) (p.run host).2 := by
  refine p.chronicle_visits ?_ ?_ [] host [] (List.append_nil _).symm hhost
  · -- What was handed over is in the trace.
    intro host host' emissions htrace _ h
    rw [HandedSince, handovers, htrace]
    exact h
  · intro visit emissions hnested hbefore
    obtain ⟨batch, hbatch, hafter⟩ := hnested.emits
    refine ⟨emissions ++ batch, ⟨batch, hbatch, rfl⟩, ?_⟩
    rw [HandedSince, hafter, hbefore, List.append_assoc]

/-- Over a whole run that begins outside of every capture, the sinks are given just the records of
the calls, in the order in which the calls begin: one for each outermost call whose event is
admitted, and none for any other call. At each call, the sinks were given the records of the calls
before it, and when the body of an intercepted call begins, that of the call itself. A call of
`capture` answers `true` just if it is outermost and level, logger name, check and mapping let its
event through; a nested one answers `false`. The run leaves no capture in progress. -/
theorem Bridge.outermost_calls_emit_once (p : Program CaptureHook Interception α β) (host : Host α)
    (hhost : host.here.depths.current logRecord = 0) :
    (∃ emissions, Emitted (p.visits [] host) emissions ∧
      (p.run host).2.handovers = host.handovers ++ emissions) ∧
    (∀ earlier visit later, p.visits [] host = earlier ++ visit :: later →
      visit.host.here.depths.current logRecord = visit.enclosing.length ∧
      ∃ emissions batch, Emitted earlier emissions ∧ visit.Emits batch ∧
        visit.host.handovers = host.handovers ++ emissions ∧
        visit.after.handovers = host.handovers ++ emissions ++ batch) ∧
    (∀ id event enclosing host', ⟨.hook (.capture id event), enclosing, host'⟩ ∈ p.visits [] host →
      ∃ captured, (capture id event host').1 = .ok captured ∧
        (captured = true ↔ enclosing = [] ∧ ∃ loggerName record host₁,
          Passes id event loggerName record (host'.counted logRecord) host₁)) ∧
    (p.run host).2.here.depths.current logRecord = 0 := by
  obtain ⟨emissions, hchronicle, hhanded, hdepth⟩ := chronicled_emissions p hhost
  refine ⟨?_, ?_, ?_, hdepth⟩
  · obtain ⟨added, hadded, hsum⟩ := hchronicle.emitted
    rw [List.nil_append] at hsum
    exact ⟨emissions, hsum ▸ hadded, hhanded⟩
  · -- The chronicle up to the call gives the records so far, and its entry the next ones.
    intro earlier visit later hvisits
    rw [hvisits] at hchronicle
    obtain ⟨before, _, hearlier, ⟨hnested, hbefore, hstep, hafter⟩, -⟩ := hchronicle.split
    obtain ⟨added, hadded, hsum⟩ := hearlier.emitted
    rw [List.nil_append] at hsum
    obtain ⟨batch, hbatch, rfl⟩ := hstep
    refine ⟨hnested, before, batch, hsum ▸ hadded, hbatch, hbefore, ?_⟩
    rw [List.append_assoc]
    exact hafter
  · intro id event enclosing host' hvisit
    obtain ⟨earlier, later, hvisits⟩ := List.append_of_mem hvisit
    rw [hvisits] at hchronicle
    obtain ⟨_, _, _, ⟨hnested, -⟩, -⟩ := hchronicle.split
    exact hnested.capture_answer

/-- A facade is intercepted by one bridge and delegates to a framework that a second one captures,
once on a thread of its own and once on the same thread, and then panics. A third bridge captures
afterwards. -/
def Bridge.facade : Program CaptureHook Interception Unit Bool :=
  .catching
    (.within ⟨0, { framework := .log4j1 }⟩
      (.onThread none (.call (.capture 1 { framework := .logback }) .done) fun _ =>
        .call (.capture 1 { framework := .logback }) fun _ =>
          (.fail (.text "offline") : Program _ _ _ Bool)) .done)
    fun _ => .call (.capture 2 { framework := .log4j2 }) .done

theorem Bridge.facade_emits_once :
    (idle ()).here.depths.current logRecord = 0 ∧
    (∃ emissions, Emitted (facade.visits [] (idle ())) emissions ∧
      (facade.run (idle ())).2.handovers = (idle ()).handovers ++ emissions) ∧
    (facade.run (idle ())).2.handovers.map Prod.fst = [0, 1, 2] :=
  ⟨CallDepths.current_empty,
    (outermost_calls_emit_once facade (idle ()) CallDepths.current_empty).1, by decide +kernel⟩

end Visits

end Telemetry
