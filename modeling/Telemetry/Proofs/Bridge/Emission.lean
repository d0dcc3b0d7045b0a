import Telemetry.Proofs.Attribute.Order
import Telemetry.Proofs.Bridge.Filter
import Telemetry.Proofs.Mapper.Writes

/-!
# What is emitted is what is mapped

The fields of the record that a sink is given, in both ways that lead to it: an event that is
captured, and a record that is emitted as it is.

* `Emission.Carries`: what the sink is given of a record, field by field.
* `Bridge.Takes`, `Bridge.Opens`: the answers of the sink on which it depends whether it is given
  something.

Main statement: `emitted_as_mapped`.
-/

namespace Telemetry

open Attempt Host

/-- What a sink is given of a record, at the time `now` and under the span `active`. -/
structure Emission.Carries (record : Record) (now : Timestamp) (active : Option SpanContext)
    (emission : Emission) : Prop where
  body : emission.body = record.body
  severity : emission.severity = record.severity
  severityText : emission.severityText = record.severityText
  /-- No attributes are as good as none set. -/
  unset : record.attributes.toList = [] → emission.attributes = none
  attributes : record.attributes.toList ≠ [] → emission.attributes = some record.attributes
  time : ∀ time, record.timestamp = some time → emission.timestamp = time
  /-- A record without a time has the time at which it is emitted. -/
  stamped : record.timestamp = none → emission.timestamp = now
  own : ∀ context, record.traceContext = some context → context.isValid →
    emission.traceContext = some context
  /-- A record without a valid span belongs to the active one, if that is valid. -/
  adopted : (∀ context, record.traceContext = some context → ¬ context.isValid) →
    emission.traceContext = active.filter (·.isValid)

theorem Record.carries_emission (record : Record) (logger : Logger) (now : Timestamp)
    (active : Option SpanContext) :
    (record.emission logger now active).Carries record now active where
  body := rfl
  severity := rfl
  severityText := rfl
  unset h := if_pos (List.isEmpty_iff.mpr h)
  attributes h := if_neg (by rwa [AttributeMap.isEmpty, List.isEmpty_iff])
  time time h := by
    rw [emission, h]
    rfl
  stamped h := by
    rw [emission, h]
    rfl
  own context h hvalid := by
    simp only [emission, h, Option.filter_some, hvalid, if_true, Option.some_or]
  adopted h := by
    -- A span of the record that is not valid is as good as none.
    have hnone : record.traceContext.filter (·.isValid) = none := by
      rw [Option.filter_eq_none_iff]
      exact h
    simp only [emission, hnone, Option.none_or]

namespace Bridge

variable {α : Type} {settings : Framework → CaptureSettings} {sink : Sink} {id : BridgeId}
  {event : Event} {host : Host α} {name : String} {record : Record}

/-! ## What depends on the sink -/

/-- The sink has a logger of the name, or creates it, and creates an empty record of it. -/
def Opens (id : BridgeId) (name : String) (host : Host α) : Prop :=
  ∃ logger host₁, resolveLogger id name host = (.ok logger, host₁) ∧
    (host₁.bridge id).sink.createRecord host₁.trace logger = .ok ()

/-- The sink lets the event through if it has a severity, and then creates an empty record. -/
def Takes (id : BridgeId) (event : Event) (host : Host α) : Prop :=
  ∃ host₁, Enabled id event.emittedName event.severity? host host₁ ∧
    Opens id event.emittedName host₁

/-- Whether the sink creates an empty record depends on what happened so far and on the loggers that
are remembered, and on nothing else. -/
theorem opens_iff : Opens id name host ↔
    match ((host.bridge id).loggers.get name).1 with
    | some logger => (host.bridge id).sink.createRecord host.trace logger = .ok ()
    | none => (host.bridge id).sink.createLogger host.trace name = .ok () ∧
      (host.bridge id).sink.createRecord (host.trace ++ [.loggerRequested id name]) ⟨name⟩ =
        .ok () := by
  rw [Opens]
  cases hget : ((host.bridge id).loggers.get name).1 with
  | some logger =>
    rw [resolveLogger_of_hit hget]
    constructor
    · rintro ⟨logger', host₁, hlogger, hcreate⟩
      cases hlogger
      rwa [bridge_set, if_pos rfl] at hcreate
    · intro hcreate
      refine ⟨logger, _, rfl, ?_⟩
      rwa [bridge_set, if_pos rfl]
  | none =>
    rw [resolveLogger_of_miss hget]
    constructor
    · rintro ⟨logger, host₁, hlogger, hcreate⟩
      cases hcreated : (host.bridge id).sink.createLogger host.trace name with
      | ok _ =>
        rw [hcreated] at hlogger
        cases hlogger
        rw [bridge_set, if_pos rfl] at hcreate
        exact ⟨rfl, hcreate⟩
      | error panic =>
        rw [hcreated] at hlogger
        cases hlogger
    · rintro ⟨hcreated, hcreate⟩
      rw [hcreated]
      refine ⟨⟨name⟩, _, rfl, ?_⟩
      rw [bridge_set, if_pos rfl]
      exact hcreate

/-- Mapping an event is nothing to the sink. -/
theorem Opens.mapEvent (h : Opens id name host) (event : Event) :
    Opens id name (Bridge.mapEvent id event host).2 := by
  have hbridge : (Bridge.mapEvent id event host).2.bridge id =
      (mapperPlace event.framework).set _ (host.bridge id) := bridge_set.trans (if_pos rfl)
  rw [opens_iff] at h ⊢
  rw [hbridge]
  exact h

/-- A sink that creates an empty record is given a record. -/
theorem Opens.ready (h : Opens id name host) (hfaithful : (host.bridge id).Faithful settings sink)
    (record : Record) :
    Ready id record name
      (record.emission ⟨name⟩ host.clock (host.activeSpan?.map (·.context))) host := by
  obtain ⟨logger, host₁, hlogger, hcreate⟩ := h
  obtain rfl : logger = ⟨name⟩ := hfaithful.logger_eq hlogger
  have hplace := (resolveLogger_samePlace id name).of_apply hlogger
  refine ⟨_, host₁, hlogger, hcreate, ?_⟩
  rw [hplace.clock, hplace.activeSpan?_eq]

/-- A check takes place where it began, and takes no time. -/
theorem Enabled.samePlace {severity : Option Severity} {host₁ : Host α}
    (h : Enabled id name severity host host₁) : SamePlace host host₁ := by
  cases severity with
  | none =>
    obtain rfl : host₁ = host := h
    exact ⟨rfl, rfl⟩
  | some severity =>
    obtain ⟨logger, host₂, hlogger, -, rfl⟩ := h
    have hplace := (resolveLogger_samePlace id name).of_apply hlogger
    exact ⟨hplace.here, hplace.clock⟩

/-! ## What does not depend on it -/

/-- An event that does not panic is mapped to its record, whatever was done before. -/
theorem Faithful.mapEvent_fst (h : (host.bridge id).Faithful settings sink)
    (hevent : event.Answers) :
    (Bridge.mapEvent id event host).1 =
      .ok (event.record event.framework (settings event.framework) host.here.info) := by
  have hmapper := h.mapper event.framework
  obtain ⟨record, m', hmap, -⟩ :=
    Mapper.map_eq_writes hmapper host.here.info (Event.complete_of_not_raises hevent)
  obtain ⟨rfl, -⟩ := Mapper.eq_of_map hmapper hmap
  exact congrArg Prod.fst hmap

/-- An event that does not panic is admitted if the sink takes it, with its record. -/
theorem Takes.admits (h : Takes id event host) (hfaithful : (host.bridge id).Faithful settings sink)
    (hevent : event.Answers) :
    Admits id event
      ((event.record event.framework (settings event.framework) host.here.info).emission
        ⟨event.emittedName⟩ host.clock (host.activeSpan?.map (·.context))) host := by
  obtain ⟨host₁, henabled, hopens⟩ := h
  obtain ⟨level, hlevel, hseverity⟩ := hevent.level_eq
  obtain ⟨loggerName, hname, hemitted⟩ := hevent.loggerName_eq
  have hplace := henabled.samePlace
  -- The check leaves the bridge as faithful as it was, and so does the mapping after it.
  have hchecked : (host₁.bridge id).Faithful settings sink :=
    (henabled.frame frame_evolvedBridges id).faithful hfaithful
  have hmapped : ((Bridge.mapEvent id event host₁).2.bridge id).Faithful settings sink :=
    (mapEvent_keeps frame_evolvedBridges event host₁ id).faithful hchecked
  have hready := (hopens.mapEvent event).ready hmapped
    (event.record event.framework (settings event.framework) host₁.here.info)
  rw [hseverity, hemitted] at henabled
  rw [← hplace.here, ← hplace.clock, ← hplace.activeSpan?_eq]
  have hmap : Bridge.mapEvent id event host₁ = (.ok _, _) :=
    Prod.ext (hchecked.mapEvent_fst hevent) rfl
  refine ⟨loggerName, _, _, ⟨level, host₁, hlevel, hname, henabled, hmap⟩, ?_⟩
  rw [← hemitted]
  exact hready

/-! ## Both ways to the sink -/

/-- The record of an event has the time of the event and no span, and each of its keys once. -/
theorem record_of_answers (hevent : event.Answers) (framework : Framework)
    (settings : CaptureSettings) (here : ThreadInfo) :
    let record := event.record framework settings here
    event.timestamp = .ok record.timestamp ∧ record.traceContext = none ∧
      (record.attributes.toList.map Prod.fst).Nodup :=
  ⟨(Event.complete_of_not_raises hevent).timestamp, rfl, AttributeMap.nodup_keys_insertMany⟩

/-- A sink that creates an empty record is given the record that is emitted, before all that it logs
itself. -/
theorem Opens.emit {loggerName : Option String} (h : Opens id (normalizeName loggerName) host)
    (hfaithful : (host.bridge id).Faithful settings sink) (record : Record) :
    ∃ later, (Bridge.emit id record loggerName host).2.handovers = host.handovers ++
        (id, record.emission ⟨normalizeName loggerName⟩ host.clock
          (host.activeSpan?.map (·.context))) :: later ∧
      (sink.echo = none → later = []) := by
  obtain ⟨answer, host₂, -, hevolved, hgiven, hhanded⟩ := (h.ready hfaithful record).handOver_eq
  rw [Bridge.emit, emitWith_handovers, hhanded]
  cases answer with
  | error panic => exact ⟨[], hgiven, fun _ => rfl⟩
  | ok _ =>
    obtain ⟨later, hlater⟩ := (echo_grownTrace id host₂).handovers
    refine ⟨later, ?_, fun hecho => ?_⟩
    · rw [hgiven, List.append_assoc] at hlater
      exact hlater
    · -- The sink is still the same, and logs nothing.
      have hsilent : (host₂.bridge id).sink.echo = none := by
        rw [(hevolved id).sink_eq, hfaithful.sink_eq, hecho]
      have hsame : (echo id host₂).2 = host₂ := by
        rw [echo, bind_ok get_apply, hsilent]
        rfl
      rw [hsame] at hlater
      exact List.self_eq_append_right.mp hlater

/-- A bridge hands over what it maps, and what it is given to emit, after any history and with any
settings.
* A capture that no other one encloses, of an event that does not panic and that the sink takes,
  hands over one record. It carries the record that the event is mapped to, as it would be by the
  bridge at any time on the same thread. That one has the time of the event, if there is one, and no
  span, so that the time of the capture and the active span stand in for them.
* A record that is given to be emitted is handed over first, if the sink creates an empty one. -/
theorem emitted_as_mapped (id : BridgeId) (host : Host α) {env : Environment}
    {given : List (Framework × CaptureSettings)}
    (hpast : HasHistory (build env given sink []).1 (host.bridge id)) :
    (∀ event, event.Answers → host.here.depths.current logRecord = 0 →
      Takes id event (host.counted logRecord) →
      ∃ record emission,
        (∀ host' : Host α, HasHistory (build env given sink []).1 (host'.bridge id) →
          host'.here.info = host.here.info → (mapEvent id event host').1 = .ok record) ∧
        event.timestamp = .ok record.timestamp ∧ record.traceContext = none ∧
        (record.attributes.toList.map Prod.fst).Nodup ∧
        (capture id event host).1 = .ok true ∧
        (capture id event host).2.handovers = host.handovers ++ [(id, emission)] ∧
        emission.logger = ⟨event.emittedName⟩ ∧
        emission.Carries record host.clock (host.activeSpan?.map (·.context))) ∧
    ∀ record loggerName, Opens id (normalizeName loggerName) host →
      ∃ emission later,
        (emit id record loggerName host).2.handovers = host.handovers ++ (id, emission) :: later ∧
        (sink.echo = none → later = []) ∧
        emission.logger = ⟨normalizeName loggerName⟩ ∧
        emission.Carries record host.clock (host.activeSpan?.map (·.context)) := by
  have hfaithful := hpast.faithful (faithful_build env given sink)
  constructor
  · intro event hevent houtermost htakes
    have hcounted : ((host.counted logRecord).bridge id).Faithful _ sink := hfaithful
    obtain ⟨hanswer, hgiven⟩ := capture_of_admits houtermost (htakes.admits hcounted hevent)
    obtain ⟨htime, hcontext, hkeys⟩ := record_of_answers hevent event.framework
      (settingsOf env given event.framework) host.here.info
    refine ⟨_, _, fun host' hpast' hinfo => ?_, htime, hcontext, hkeys, hanswer, hgiven, rfl,
      Record.carries_emission _ _ _ _⟩
    rw [← hinfo]
    exact (hpast'.faithful (faithful_build env given sink)).mapEvent_fst hevent
  · intro record loggerName hopens
    obtain ⟨later, hgiven, hquiet⟩ := hopens.emit hfaithful record
    exact ⟨_, later, hgiven, hquiet, rfl, Record.carries_emission _ _ _ _⟩

/-- An event with an exception and without a time. -/
def outage : Event where
  framework := .logback
  loggerName := .ok (some "web")
  level := .ok (some ⟨"WARN", 30000⟩)
  throwable := .ok (some ⟨"Outage", none, "at web"⟩)

/-- A host on which a span is active. -/
def underWay : Host Unit :=
  (hostOf {}).placed { info := {}, spans := [{ context := ⟨7, 9, 1⟩ }] } ⟨5⟩

theorem outage_emitted_as_mapped :
    HasHistory (build ⟨fun _ => none⟩ [] {} []).1 (underWay.bridge 0) ∧ outage.Answers ∧
    underWay.here.depths.current logRecord = 0 ∧ Takes 0 outage (underWay.counted logRecord) ∧
    (∃ record emission, (mapEvent 0 outage underWay).1 = .ok record ∧
      (capture 0 outage underWay).2.handovers = [(0, emission)] ∧
      emission.severity = record.severity ∧ emission.timestamp = ⟨5⟩ ∧
      emission.traceContext = some ⟨7, 9, 1⟩) ∧
    (capture 0 outage underWay).2.handovers.map (·.2.attributes.map (·.toList.map Prod.fst)) =
      [some ["exception.type", "exception.stacktrace"]] ∧
    Opens 0 (normalizeName none) underWay ∧
    ∃ emission, (emit 0 { traceContext := some ⟨0, 9, 1⟩ } none underWay).2.handovers =
      [(0, emission)] ∧ emission.traceContext = some ⟨7, 9, 1⟩ := by
  have hpast := hasHistory_hostOf {}
  have hanswers : outage.Answers := by simp [Event.Answers, Event.Raises, outage]
  have hseverity : outage.severity? = some ⟨.warn, 0⟩ := by decide +kernel
  have htakes : Takes 0 outage (underWay.counted logRecord) := by
    refine ⟨(accepts 0 (some "web") (some ⟨.warn, 0⟩) (underWay.counted logRecord)).2, ?_,
      opens_iff.mpr rfl⟩
    rw [hseverity]
    exact ⟨⟨"web"⟩, _, rfl, rfl, rfl⟩
  have hopens : Opens 0 (normalizeName none) underWay := opens_iff.mpr ⟨rfl, rfl⟩
  obtain ⟨hcaptured, hemitted⟩ := emitted_as_mapped 0 underWay hpast
  obtain ⟨record, emission, hmap, htime, hnone, -, -, hgiven, -, hcarries⟩ :=
    hcaptured outage hanswers CallDepths.current_empty htakes
  obtain ⟨emission', later, hgiven', hquiet, -, hcarries'⟩ :=
    hemitted { traceContext := some ⟨0, 9, 1⟩ } none hopens
  rw [hquiet rfl] at hgiven'
  -- The event has no time and no span of its own, and the span that the record names is not valid.
  refine ⟨hpast, hanswers, CallDepths.current_empty, htakes,
    ⟨record, emission, hmap underWay hpast rfl, hgiven, hcarries.severity,
      hcarries.stamped (Except.ok.inj htime).symm, hcarries.adopted (by simp [hnone])⟩,
    by decide +kernel, hopens, emission', hgiven', hcarries'.adopted ?_⟩
  rintro context ⟨⟩
  decide

end Bridge

end Telemetry
