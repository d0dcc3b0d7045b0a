import Telemetry.Proofs.Bridge.Twins
import Telemetry.Proofs.Undisturbed

/-!
# Histories do not show

Whatever a mapper or a bridge was used for before, it maps and captures the next event in the same
way, since all that it remembers is faithful.

* `Mapper.used`: a mapper after any uses.
* `Bridge.HasHistory`: a bridge after the run of any program, which may use it and any other bridge
  in every way that there is.

Main statement: mapping and capturing an event does not depend on the history (`history_unseen`).
-/

namespace Telemetry

open Attempt Host Statement

/-! ## Histories of mappers -/

namespace Mapper

/-- Something that a mapper is used for, on some thread. -/
inductive Use where
  | map (here : ThreadInfo) (event : Event)
  | collect (here : ThreadInfo) (event : Event)

/-- The mapper after a use, which may have panicked. -/
def Use.apply (m : Mapper) : Use → Mapper
  | map here event => (Mapper.map here event m).2
  | collect here event => (Mapper.collect here event m).2

/-- The mapper after uses in the order of the list. -/
def used (m : Mapper) (uses : List Use) : Mapper := uses.foldl Use.apply m

theorem Faithful.used {framework : Framework} {settings : CaptureSettings} {m : Mapper}
    (h : m.Faithful framework settings) (uses : List Use) :
    (m.used uses).Faithful framework settings := by
  induction uses generalizing m with
  | nil => exact h
  | cons use later ih =>
    cases use with
    | map here event => exact ih (h.map here event)
    | collect here event => exact ih (h.collect here event)

end Mapper

/-! ## Histories of bridges -/

/-- What happens in a host besides hooks: a mapper of a bridge is used on its own, or time passes.
-/
inductive Request : Type → Type where
  | map (id : BridgeId) (framework : Framework) (event : Event) : Request Record
  | collect (id : BridgeId) (framework : Framework) (event : Event) : Request AttributeMap
  | wait (now : Timestamp) : Request Unit

/-- All that a program can ask for. -/
inductive Activity (β : Type) : Type where
  | hook (hook : Hook β)
  | request (request : Request β)

variable {α α' β : Type}

/-- Does what is requested. -/
def Request.call : Request β → Attempt (Host α) β
  | map id framework event => Bridge.useMapper id framework (Mapper.map · event)
  | collect id framework event => Bridge.useMapper id framework (Mapper.collect · event)
  | wait now => modify fun host => { host with clock := now }

/-- Does what is asked for. -/
def Activity.call : Activity β → Attempt (Host α) β
  | .hook asked => asked.call
  | .request asked => asked.call

instance : Instrumentation Activity Wrapper where
  call := Activity.call
  within := Wrapper.within

open Bridge

theorem Hook.call_evolvedBridges (hook : Hook β) : Keeps EvolvedBridges (hook.call (α := α)) := by
  have hR := frame_evolvedBridges (α := α)
  cases hook with
  | capture id event => exact capture_keeps hR evolvedBridges_noted event
  | emit id record loggerName => exact emit_keeps hR evolvedBridges_noted record loggerName
  | accepts id loggerName severity => exact accepts_keeps hR loggerName severity
  | bind binding => exact bindWith_keeps hR (hR.pure ())
  | execute id statement => exact execute_keeps hR

theorem Request.call_evolvedBridges (request : Request β) :
    Keeps EvolvedBridges (request.call (α := α)) := by
  have hR := frame_evolvedBridges (α := α)
  cases request with
  | map id framework event =>
    exact fun host => hR.bridge id _ host (evolves_setMapper fun _ hm => hm.map _ event)
  | collect id framework event =>
    exact fun host => hR.bridge id _ host (evolves_setMapper fun _ hm => hm.collect _ event)
  | wait now => exact fun host id => evolves_refl (host.bridge id)

theorem Activity.call_evolvedBridges (activity : Activity β) :
    Keeps EvolvedBridges (activity.call (α := α)) := by
  cases activity with
  | hook hook => exact hook.call_evolvedBridges
  | request request => exact request.call_evolvedBridges

theorem Wrapper.enter_evolvedBridges (wrapper : Wrapper) (host : Host α) :
    EvolvedBridges host (wrapper.enter host) := by
  have hR := frame_evolvedBridges (α := α)
  cases wrapper with
  | intercept interception =>
    exact hR.opened (discard_emitEvent_keeps hR evolvedBridges_noted interception.event)
  | bindWith binding => exact hR.opened (record_keeps hR)

/-- In the run of a program all bridges stay faithful. -/
theorem Program.run_evolvedBridges (p : Program Activity Wrapper α β) :
    Keeps EvolvedBridges p.run := by
  have hR := frame_evolvedBridges (α := α)
  -- On the tree of the program: what a hook or a wrapper does is covered above, and every other
  -- constructor puts runs together in a way that a frame is closed under.
  induction p with
  | done answer => exact hR.pure answer
  | act x next ih => exact hR.bind (fun host id => evolves_refl (host.bridge id)) ih
  | call hook next ih => exact hR.bind hook.call_evolvedBridges ih
  | within wrapper body next ihbody ih =>
    refine hR.bind (fun host => ?_) ih
    rw [show Instrumentation.within Activity wrapper body.run host = _ from
      wrapper.within_apply body.run host]
    exact hR.trans _ _ _ (wrapper.enter_evolvedBridges host) (ihbody _)
  | catching body next ihbody ih => exact hR.bind ihbody.outcome ih
  | onThread name body next ihbody ih =>
    exact hR.bind (x := Host.onThread name body.run) (fun host => ihbody (host.started name)) ih
  | underSpan span body next ihbody ih =>
    exact hR.bind (x := Host.underSpan span body.run) (fun host => ihbody (host.spanned span))
      fun ended => ih ended.1

namespace Bridge

variable {settings : Framework → CaptureSettings} {sink : Sink} {id : BridgeId}

/-- The bridge is what `first` became in the run of some program on some host. -/
def HasHistory (first bridge : Bridge) : Prop :=
  ∃ (α β : Type) (past : Program Activity Wrapper α β) (start : Host α) (id : BridgeId),
    start.bridge id = first ∧ (past.run start).2.bridge id = bridge

theorem HasHistory.faithful {first bridge : Bridge} (h : HasHistory first bridge)
    (hfirst : first.Faithful settings sink) : bridge.Faithful settings sink := by
  obtain ⟨α, β, past, start, id, rfl, rfl⟩ := h
  exact (past.run_evolvedBridges start id).faithful hfirst

/-! ## The next event -/

/-- A record that was handed over comes from the bridge, and its logger is one that the sink creates
for the normalized name of the event's logger. -/
def Delivers (id : BridgeId) (sink : Sink) (event : Event) (handed : BridgeId × Emission) : Prop :=
  handed.1 = id ∧ ∃ loggerName, event.loggerName = .ok loggerName ∧
    handed.2.logger = ⟨normalizeName loggerName⟩ ∧
    ∀ past, sink.createLogger past (normalizeName loggerName) = .ok ()

theorem Faithful.delivers {event : Event} {emission : Emission} {host : Host α}
    (h : (host.bridge id).Faithful settings sink) (hsink : sink.Stateless)
    (hadmits : Admits id event emission host) : Delivers id sink event (id, emission) := by
  obtain ⟨loggerName, record, host₁, hpasses, logger, host₂, hlogger, -, rfl⟩ := hadmits
  -- The logger is looked up after the check and the mapping, which keep the bridge faithful.
  have hfaithful : (host₁.bridge id).Faithful settings sink :=
    (hpasses.frame frame_evolvedBridges id).faithful h
  obtain ⟨level, _, -, hname, -, -⟩ := hpasses
  refine ⟨rfl, loggerName, hname, hfaithful.logger_eq hlogger, fun past => ?_⟩
  have hcreate := hsink.createLogger_eq (normalizeName loggerName)
  have hcreated := (hfaithful.resolveLogger hcreate past).1
  rw [hlogger] at hcreated
  cases hanswer : sink.createLogger past (normalizeName loggerName) with
  | ok => rfl
  | error panic =>
    rw [hanswer] at hcreated
    cases hcreated

/-- What is handed over while an event is captured is delivered to the event's logger. -/
theorem Faithful.capture_delivers {event : Event} {host : Host α}
    (h : (host.bridge id).Faithful settings sink) (hsink : sink.Stateless)
    {added : List Happening} (hadded : (capture id event host).2.trace = host.trace ++ added) :
    ∀ handed ∈ added.filterMap Happening.handover?, Delivers id sink event handed := by
  have hhanded : (entered id event host).handovers =
      host.handovers ++ added.filterMap Happening.handover? := by
    rw [← capture_handovers, handovers, hadded, List.filterMap_append, handovers]
  intro handed hmem
  obtain ⟨emission, -, hadmits, hgiven⟩ | ⟨-, hsame⟩ :=
    entered_handovers id event host
  · -- Just one record was handed over, the one that the event admits.
    rw [List.append_cancel_left (hhanded.symm.trans hgiven), List.mem_singleton] at hmem
    have hcounted : ((host.counted logRecord).bridge id).Faithful settings sink := h
    exact hmem ▸ hcounted.delivers hsink hadmits
  · rw [List.append_cancel_left (hhanded.symm.trans (hsame.trans (List.append_nil _).symm))] at hmem
    cases hmem

/-- A mapper maps and collects an event in the same way after any two histories. So does a bridge to
a sink without a state, in hosts with the same thread, clock, active span and captures in progress:
its mappers map and collect the event in the same way, and capturing the event gives the same
answer, asks the sink the same questions, hands over the same records and reports the same
diagnostics, but for the loggers that are asked for anew. What is handed over is delivered to a
logger of the event's normalized name. -/
theorem history_unseen :
    (∀ framework settings past past' here event,
      let m := (Mapper.ofSettings framework settings).used past
      let m' := (Mapper.ofSettings framework settings).used past'
      (Mapper.map here event m).1 = (Mapper.map here event m').1 ∧
      (Mapper.collect here event m).1 = (Mapper.collect here event m').1) ∧
    (∀ env given sink id (host : Host α) (host' : Host α') event, sink.Stateless →
      HasHistory (build env given sink []).1 (host.bridge id) →
      HasHistory (build env given sink []).1 (host'.bridge id) →
      SameScene host host' →
      (∀ framework,
        ((Request.map id framework event).call host).1 =
          ((Request.map id framework event).call host').1 ∧
        ((Request.collect id framework event).call host).1 =
          ((Request.collect id framework event).call host').1) ∧
      (mapEvent id event host).1 = (mapEvent id event host').1 ∧
      (capture id event host).1 = (capture id event host').1 ∧
      ∃ added added',
        (capture id event host).2.trace = host.trace ++ added ∧
        (capture id event host').2.trace = host'.trace ++ added' ∧
        added.filter (·.shows) = added'.filter (·.shows) ∧
        ∀ handed ∈ added.filterMap Happening.handover?, Delivers id sink event handed) := by
  constructor
  · intro framework settings past past' here event
    have hfaithful : (Mapper.ofSettings framework settings).Faithful framework settings :=
      Mapper.faithful_ofSettings
    have hboth := And.intro (hfaithful.used past) (hfaithful.used past')
    exact ⟨(Mapper.simulates_map here event hboth).1, (Mapper.simulates_collect here event hboth).1⟩
  · intro env given sink id host host' event hsink hpast hpast' hscene
    -- Both bridges began alike, so whatever their histories are, they are faithful to one sink.
    have hfirst := faithful_build env given sink
    have hleft := hpast.faithful hfirst
    have htwins := twins_now hleft (hpast'.faithful hfirst) hscene
    obtain ⟨hanswer, hstate⟩ := simulates_capture hsink event htwins
    obtain ⟨added, added', hadded, hadded', hshows⟩ := hstate.since
    refine ⟨fun framework => ⟨?_, ?_⟩, (simulates_mapEvent event htwins).1, hanswer, added, added',
      hadded, hadded', hshows, hleft.capture_delivers hsink hadded⟩
    · exact (simulates_useMapper (Mapper.simulates_map · event) htwins).1
    · exact (simulates_useMapper (Mapper.simulates_collect · event) htwins).1

/-- An event with a diagnostic context. -/
def login : Event where
  framework := .log4j1
  loggerName := .ok (some "web")
  level := .ok (some ⟨"INFO", 20000⟩)
  context := .ok (some (.ofList [("user", "ada")]))

/-- A new bridge that captures the whole diagnostic context of Log4j 1.2. -/
def unused : Bridge := (build ⟨fun _ => none⟩ [(.log4j1, { contextKeys := ["*"] })] {} []).1

/-- A host with new bridges. -/
def begun : Host Unit := { idle () with bridge := fun _ => unused }

/-- An event is captured whose mapping panics once the context is captured, and then two more. -/
def busy : Program Activity Wrapper Unit Unit :=
  .call (.hook (.capture 0 { login with timestamp := .error .unreadable })) fun _ =>
    .call (.hook (.capture 0 login)) fun _ =>
      .call (.hook (.capture 0 { login with loggerName := .ok none })) fun _ => .done ()

theorem busy_unseen :
    Sink.Stateless {} ∧ unused.HasHistory ((busy.run begun).2.bridge 0) ∧
    unused.HasHistory (begun.bridge 0) ∧ SameScene (busy.run begun).2 begun ∧
    (capture 0 login (busy.run begun).2).1 = (capture 0 login begun).1 ∧
    (capture 0 login begun).1 = .ok true ∧
    ((busy.run begun).2.bridge 0).loggers.size = 2 ∧ (begun.bridge 0).loggers.size = 0 := by
  have hsink : Sink.Stateless {} := fun _ _ => ⟨rfl, rfl, rfl, rfl⟩
  have hpast : unused.HasHistory ((busy.run begun).2.bridge 0) :=
    ⟨Unit, Unit, busy, begun, 0, rfl, rfl⟩
  have hpast' : unused.HasHistory (begun.bridge 0) := ⟨Unit, Unit, .done (), begun, 0, rfl, rfl⟩
  have hscene : SameScene (busy.run begun).2 begun :=
    ⟨by decide +kernel, by decide +kernel, by decide +kernel, by decide +kernel⟩
  have hsame := history_unseen.2 ⟨fun _ => none⟩ [(.log4j1, { contextKeys := ["*"] })] {} 0
    (busy.run begun).2 begun login hsink hpast hpast' hscene
  exact ⟨hsink, hpast, hpast', hscene, hsame.2.2.1, by decide +kernel, by decide +kernel,
    by decide +kernel⟩

end Bridge

end Telemetry
