import Telemetry.Proofs.Bridge.Frame

/-!
# Two hosts with one bridge

A bridge in two hosts may remember different things. If it remembers them faithfully, if the sink
keeps no state, and if the hosts have the same thread, clock, active span and captures in progress,
then what the bridge does is the same in both, but for the loggers that it has to ask for.

* `Bridge.SameScene`: what the hosts have in common.
* `Bridge.Twins`: besides, the same happened in both since some moment, as far as it shows.

Main statement: capturing an event gives the same answer in both hosts, and the hosts stay twins
(`Bridge.simulates_capture`).
-/

namespace Telemetry

open Attempt Host

/-- Whether a happening shows what a bridge does. That the sink is asked for a logger shows only
that the bridge does not remember it. -/
def Happening.shows (happening : Happening) : Bool := happening.requestedLogger?.isNone

namespace Bridge

variable {α γ β : Type} {settings : Framework → CaptureSettings} {sink : Sink} {id : BridgeId}
  {past past' : List Happening}

/-- What two hosts look like to a bridge is the same: the running thread, the time, the active span
and the captures in progress. -/
structure SameScene (host : Host α) (host' : Host γ) : Prop where
  info : host.here.info = host'.here.info
  clock : host.clock = host'.clock
  span : host.activeSpan?.map (·.context) = host'.activeSpan?.map (·.context)
  depth : host.here.depths.current logRecord = host'.here.depths.current logRecord

/-- Two hosts in which the bridge is faithful look the same to it, and what happened in them since
`past` and `past'` is the same as far as it shows. -/
structure Twins (settings : Framework → CaptureSettings) (sink : Sink) (id : BridgeId)
    (past past' : List Happening) (host : Host α) (host' : Host γ) : Prop where
  left : (host.bridge id).Faithful settings sink
  right : (host'.bridge id).Faithful settings sink
  scene : SameScene host host'
  since : ∃ added added', host.trace = past ++ added ∧ host'.trace = past' ++ added' ∧
    added.filter (·.shows) = added'.filter (·.shows)

/-- Hosts that look the same are twins from now on. -/
theorem twins_now {host : Host α} {host' : Host γ}
    (hleft : (host.bridge id).Faithful settings sink)
    (hright : (host'.bridge id).Faithful settings sink) (hscene : SameScene host host') :
    Twins settings sink id host.trace host'.trace host host' where
  left := hleft
  right := hright
  scene := hscene
  since := ⟨[], [], (List.append_nil _).symm, (List.append_nil _).symm, rfl⟩

/-- The host after a bridge became `b` and `marks` happened. -/
def progressed (id : BridgeId) (b : Bridge) (marks : List Happening) (host : Host α) : Host α :=
  (bridgePlace id).set b { host with trace := host.trace ++ marks }

section Progress

variable {host : Host α} {host' : Host γ}

theorem noted_eq_progressed (id : BridgeId) (happening : Happening) :
    host.noted happening = progressed id (host.bridge id) [happening] host := by
  have hself : (bridgePlace id).set ((host.noted happening).bridge id) (host.noted happening) =
      host.noted happening := bridge_set_self
  exact hself.symm

theorem set_eq_progressed {b : Bridge} : (bridgePlace id).set b host = progressed id b [] host := by
  rw [progressed, List.append_nil]

theorem bridge_progressed {b : Bridge} {marks : List Happening} :
    (progressed id b marks host).bridge id = b := by
  rw [progressed, bridge_set, if_pos rfl]

/-- Hosts stay twins if the same happens in both, as far as it shows, and the bridge stays
faithful. -/
theorem Twins.progressed (h : Twins settings sink id past past' host host') {b b' : Bridge}
    (hb : b.Faithful settings sink) (hb' : b'.Faithful settings sink)
    {marks marks' : List Happening} (hmarks : marks.filter (·.shows) = marks'.filter (·.shows)) :
    Twins settings sink id past past' (progressed id b marks host)
      (progressed id b' marks' host') where
  left := by rwa [bridge_progressed]
  right := by rwa [bridge_progressed]
  scene := ⟨h.scene.info, h.scene.clock, h.scene.span, h.scene.depth⟩
  since := by
    obtain ⟨added, added', htrace, htrace', hsame⟩ := h.since
    refine ⟨added ++ marks, added' ++ marks', ?_, ?_, ?_⟩
    · rw [← List.append_assoc, ← htrace]
      rfl
    · rw [← List.append_assoc, ← htrace']
      rfl
    · rw [List.filter_append, List.filter_append, hsame, hmarks]

theorem Twins.noted (h : Twins settings sink id past past' host host') (happening : Happening) :
    Twins settings sink id past past' (host.noted happening) (host'.noted happening) := by
  rw [noted_eq_progressed id, noted_eq_progressed id]
  exact h.progressed h.left h.right rfl

theorem Twins.set (h : Twins settings sink id past past' host host') {b b' : Bridge}
    (hb : b.Faithful settings sink) (hb' : b'.Faithful settings sink) :
    Twins settings sink id past past' ((bridgePlace id).set b host)
      ((bridgePlace id).set b' host') := by
  rw [set_eq_progressed, set_eq_progressed]
  exact h.progressed hb hb' rfl

theorem Twins.counted (h : Twins settings sink id past past' host host') :
    Twins settings sink id past past' (host.counted logRecord) (host'.counted logRecord) where
  left := h.left
  right := h.right
  scene := { h.scene with
    depth := by rw [current_counted, current_counted, h.scene.depth] }
  since := h.since

theorem Twins.uncounted (h : Twins settings sink id past past' host host') :
    Twins settings sink id past past' (host.uncounted logRecord) (host'.uncounted logRecord) where
  left := h.left
  right := h.right
  scene := { h.scene with
    depth := by rw [current_uncounted, current_uncounted, h.scene.depth] }
  since := h.since

end Progress

/-! ## Loggers -/

section Logger

variable {host : Host α}

/-- The logger of a name is the one of that name, whether it is remembered or created. -/
theorem Faithful.logger_eq (h : (host.bridge id).Faithful settings sink) {name : String}
    {logger : Logger} {host₁ : Host α}
    (hlogger : resolveLogger id name host = (.ok logger, host₁)) : logger = ⟨name⟩ := by
  cases hget : ((host.bridge id).loggers.get name).1 with
  | some kept =>
    rw [resolveLogger_of_hit hget] at hlogger
    cases hlogger
    exact (h.loggers.of_get hget).1
  | none =>
    rw [resolveLogger_of_miss hget] at hlogger
    cases hcreated : (host.bridge id).sink.createLogger host.trace name with
    | ok =>
      rw [hcreated] at hlogger
      cases hlogger
      rfl
    | error panic =>
      rw [hcreated] at hlogger
      cases hlogger

/-- A logger is as the sink creates it at any time, and what shows is not more than before. -/
theorem Faithful.resolveLogger (h : (host.bridge id).Faithful settings sink) {name : String}
    (hsink : ∀ past past', sink.createLogger past name = sink.createLogger past' name)
    (past : List Happening) :
    (resolveLogger id name host).1 = (sink.createLogger past name).map (fun _ => ⟨name⟩) ∧
    ∃ b marks, b.Faithful settings sink ∧ marks.filter (·.shows) = [] ∧
      (resolveLogger id name host).2 = progressed id b marks host := by
  cases hget : ((host.bridge id).loggers.get name).1 with
  | some logger =>
    -- The sink created the logger once, and so it would create it at any time.
    obtain ⟨rfl, past', hcreated⟩ := h.loggers.of_get hget
    rw [resolveLogger_of_hit hget, hsink past past', hcreated, set_eq_progressed]
    exact ⟨rfl, _, [], (evolves_getLogger name).faithful h, rfl, rfl⟩
  | none =>
    rw [resolveLogger_of_miss hget, hsink past host.trace]
    simp only [h.sink_eq]
    cases hcreated : sink.createLogger host.trace name with
    | ok =>
      rw [← h.sink_eq] at hcreated
      exact ⟨rfl, _, [.loggerRequested id name], (evolves_insertLogger hcreated).faithful h, rfl,
        rfl⟩
    | error panic =>
      -- Nothing is remembered of a logger that was not created.
      exact ⟨rfl, _, [.loggerRequested id name], h, rfl, noted_eq_progressed id _⟩

end Logger

/-! ## What bridges do -/

/-- What is the same in twins is done in the same way in both, and leaves them twins. -/
theorem simulates_note (happening : Happening) :
    Simulates (Twins (α := α) (γ := γ) settings sink id past past')
      (note happening) (note happening) :=
  fun _ _ h => ⟨rfl, h.noted happening⟩

theorem simulates_report (diagnostic : Diagnostic) :
    Simulates (Twins (α := α) (γ := γ) settings sink id past past')
      (report diagnostic) (report diagnostic) :=
  simulates_note _

theorem simulates_callSink {mark : Happening} {stage : Sink → List Happening → Except Panic β}
    (hstage : ∀ past past', stage sink past = stage sink past') :
    Simulates (Twins (α := α) (γ := γ) settings sink id past past')
      (callSink id mark stage) (callSink id mark stage) := by
  intro host host' h
  rw [callSink_apply, callSink_apply, h.left.sink_eq, h.right.sink_eq,
    hstage host.trace host'.trace]
  exact ⟨rfl, h.noted mark⟩

/-- Uses a mapper of a bridge on the running thread. -/
def useMapper (id : BridgeId) (framework : Framework) (use : ThreadInfo → Attempt Mapper β) :
    Attempt (Host α) β := do
  let here := (← get).here.info
  focus ((bridgePlace id).comp (mapperPlace framework)) (use here)

/-- A mapper does the same in twins, whatever it remembers in each of them. -/
theorem simulates_useMapper {framework : Framework} {use : ThreadInfo → Attempt Mapper β}
    (huse : ∀ here, Simulates (Mapper.BothFaithful framework (settings framework))
      (use here) (use here)) :
    Simulates (Twins (α := α) (γ := γ) settings sink id past past')
      (useMapper id framework use) (useMapper id framework use) := by
  refine Simulates.get_bind fun host host' hscene => ?_
  rw [hscene.scene.info]
  intro host host' h
  obtain ⟨houtcome, hleft, hright⟩ := huse _ ⟨h.left.mapper framework, h.right.mapper framework⟩
  exact ⟨houtcome, h.set (h.left.setMapper hleft) (h.right.setMapper hright)⟩

theorem simulates_mapEvent (event : Event) :
    Simulates (Twins (α := α) (γ := γ) settings sink id past past')
      (mapEvent id event) (mapEvent id event) :=
  simulates_useMapper (Mapper.simulates_map · event)

section Chain

variable (hsink : sink.Stateless)
include hsink

theorem simulates_resolveLogger (name : String) :
    Simulates (Twins (α := α) (γ := γ) settings sink id past past')
      (resolveLogger id name) (resolveLogger id name) := by
  intro host host' h
  -- One of the hosts may remember the logger and the other not; both end as the sink has it.
  have hcreate := hsink.createLogger_eq name
  obtain ⟨hended, b, marks, hb, hmarks, hstate⟩ := h.left.resolveLogger hcreate []
  obtain ⟨hended', b', marks', hb', hmarks', hstate'⟩ := h.right.resolveLogger hcreate []
  rw [hended, hended', hstate, hstate']
  exact ⟨rfl, h.progressed hb hb' (hmarks.trans hmarks'.symm)⟩

theorem simulates_accepts (loggerName : Option String) (severity : Option Severity) :
    Simulates (Twins (α := α) (γ := γ) settings sink id past past')
      (accepts id loggerName severity) (accepts id loggerName severity) := by
  cases severity with
  | none => exact simulates_pure true
  | some severity =>
    refine Simulates.bind (Simulates.outcome ?_) fun answer => simulates_pure _
    refine (simulates_resolveLogger hsink _).bind fun logger => simulates_callSink ?_
    exact fun past past' => by rw [(hsink past past').2.1]

variable {echo : Attempt (Host α) Unit} {echo' : Attempt (Host γ) Unit}
  (hecho : Simulates (Twins settings sink id past past') echo echo')
include hecho

theorem simulates_handOver (record : Record) (name : String) :
    Simulates (Twins settings sink id past past')
      (handOver id echo record name) (handOver id echo' record name) := by
  refine (simulates_resolveLogger hsink name).bind fun logger => ?_
  refine (simulates_callSink fun past past' => ?_).bind fun _ => ?_
  · rw [(hsink past past').2.2.1]
  -- The record is completed from the clock and the active span, which are the same.
  refine Simulates.get_bind fun host host' h => ?_
  simp only [h.scene.clock, h.scene.span, h.left.sink_eq, h.right.sink_eq,
    (hsink host.trace host'.trace).2.2.2]
  exact (simulates_note _).bind fun _ => (simulates_ofOutcome _).bind fun _ => hecho

theorem simulates_emitWith (record : Record) (loggerName : Option String) :
    Simulates (Twins settings sink id past past')
      (emitWith id echo record loggerName) (emitWith id echo' record loggerName) := by
  refine (simulates_handOver hsink hecho record _).outcome.bind ?_
  rintro (panic | _)
  · exact simulates_report _
  · exact simulates_pure ()

theorem simulates_emitEvent (event : Event) :
    Simulates (Twins settings sink id past past')
      (emitEvent id echo event) (emitEvent id echo' event) := by
  refine Simulates.bind (Simulates.outcome ?_) ?_
  · refine (simulates_ofOutcome event.level).bind fun level => ?_
    refine (simulates_ofOutcome event.loggerName).bind fun loggerName => ?_
    refine (simulates_accepts hsink loggerName _).bind fun accepted => ?_
    cases accepted with
    | false => exact simulates_pure false
    | true =>
      refine (simulates_mapEvent event).bind fun record => ?_
      exact (simulates_emitWith hsink hecho record loggerName).bind fun _ => simulates_pure true
  · rintro (panic | captured)
    · exact (simulates_report _).bind fun _ => simulates_pure false
    · exact simulates_pure captured

theorem simulates_captureWith (event : Event) :
    Simulates (Twins settings sink id past past')
      (captureWith id echo event) (captureWith id echo' event) := by
  intro host host' h
  have hbody := simulates_emitEvent hsink hecho event
  rw [captureWith, captureWith, guarded_apply, guarded_apply, h.scene.depth]
  dsimp only
  split
  · -- The call is outermost in both hosts.
    obtain ⟨houtcome, hstate⟩ := hbody h.counted
    exact ⟨houtcome, hstate.uncounted⟩
  · -- The call is within another one in both, at the same depth, which is reported.
    obtain ⟨houtcome, hstate⟩ := (simulates_report _).bind (fun _ => simulates_pure false) h.counted
    exact ⟨houtcome, hstate.uncounted⟩

omit hecho

theorem simulates_echo :
    Simulates (Twins (α := α) (γ := γ) settings sink id past past')
      (Bridge.echo id) (Bridge.echo id) := by
  refine Simulates.get_bind fun host host' h => ?_
  rw [h.left.sink_eq, h.right.sink_eq, h.scene.info]
  split
  · refine Simulates.bind ?_ fun captured => simulates_note _
    exact simulates_captureWith hsink (simulates_pure ()) _
  · exact simulates_pure ()

/-- Capturing an event gives the same answer in twins, and they stay twins. -/
theorem simulates_capture (event : Event) :
    Simulates (Twins (α := α) (γ := γ) settings sink id past past')
      (capture id event) (capture id event) :=
  simulates_captureWith hsink (simulates_echo hsink) event

end Chain

end Bridge

end Telemetry
