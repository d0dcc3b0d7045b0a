import Mathlib.Data.List.Forall2
import Telemetry.Proofs.Bridge.Failures
import Telemetry.Proofs.Bridge.History

/-!
# Filtering at the sink

A sink that takes only some severities receives what is left if a sink that takes all of them is
filtered afterwards.

* `Sink.EnabledBy`: the sink takes the records whose severity and logger name satisfy a predicate.
* `Bridge.Occasion`: a capture that no other capture encloses, of an event whose accessors answer.
* `Bridge.captures`: occasions one after another, each at a time of its own.

Main statement: the records that are received, the questions that the sink is asked, and that
nothing of a refused event is looked at but what the question needs (`filtered_at_sink`).
-/

namespace Telemetry

open Attempt Host

/-- The sink takes the records whose severity and logger name satisfy `p`, and creates every logger
and every empty record. What it does with a record that it is given is up to it. -/
structure Sink.EnabledBy (p : Severity → String → Bool) (sink : Sink) : Prop where
  createLogger : ∀ past name, sink.createLogger past name = .ok ()
  accepts : ∀ past logger severity target,
    sink.accepts past logger severity target = .ok (p severity logger.name)
  createRecord : ∀ past logger, sink.createRecord past logger = .ok ()

/-- No accessor of the event panics. -/
def Event.Answers (event : Event) : Prop := ∀ panic, ¬ event.Raises panic

/-- The severity that the event has by its level. -/
def Event.severity? (event : Event) : Option Severity :=
  event.level.toOption.bind (Bridge.severityAt event)

/-- The name under which the event is emitted. -/
def Event.emittedName (event : Event) : String :=
  Bridge.normalizeName event.loggerName.toOption.join

theorem Event.Answers.level_eq {event : Event} (h : event.Answers) :
    ∃ level, event.level = .ok level ∧ event.severity? = Bridge.severityAt event level := by
  cases hlevel : event.level with
  | ok level => exact ⟨level, rfl, by rw [Event.severity?, hlevel]; rfl⟩
  | error panic => exact absurd (Or.inr (Or.inl hlevel)) (h panic)

theorem Event.Answers.loggerName_eq {event : Event} (h : event.Answers) :
    ∃ loggerName, event.loggerName = .ok loggerName ∧
      event.emittedName = Bridge.normalizeName loggerName := by
  cases hname : event.loggerName with
  | ok loggerName => exact ⟨loggerName, rfl, by rw [Event.emittedName, hname]; rfl⟩
  | error panic => exact absurd (Or.inl hname) (h panic)

/-- The severity is unset or satisfies `p`. -/
def Emission.wantedBy (p : Severity → String → Bool) (emission : Emission) : Bool :=
  emission.severity.all (p · emission.logger.name)

/-- Two records of an event are the same, but for the time if the event has none. -/
def Emission.Matches (event : Event) (emission emission' : Emission) : Prop :=
  { emission with timestamp := emission'.timestamp } = emission' ∧
    (event.timestamp ≠ .ok none → emission.timestamp = emission'.timestamp)

theorem Emission.Matches.wantedBy_eq {p : Severity → String → Bool} {event : Event}
    {emission emission' : Emission} (h : emission.Matches event emission') :
    emission.wantedBy p = emission'.wantedBy p := by
  rw [← h.1]
  rfl

/-- A sink that takes all severities wants every record. -/
theorem Emission.wantedBy_all (emission : Emission) : emission.wantedBy fun _ _ => true := by
  rw [wantedBy]
  cases emission.severity <;> rfl

/-- The question that a sink is asked about the event, if it has a severity. -/
def Event.question? (event : Event) : Option (Logger × Severity × String) :=
  event.severity?.map fun severity => (⟨event.emittedName⟩, severity, event.emittedName)

/-- The host with a thread running at a time. -/
def Host.placed {α : Type} (thread : Thread) (now : Timestamp) (host : Host α) : Host α :=
  { host with here := thread, clock := now }

/-- The questions that sinks were asked so far, in order. -/
def Host.checks {α : Type} (host : Host α) : List (Logger × Severity × String) :=
  host.seen Happening.severityCheck?

namespace Bridge

variable {α α' : Type} {settings : Framework → CaptureSettings} {sink : Sink} {id : BridgeId}
  {p : Severity → String → Bool} {event : Event} {host : Host α}

/-! ## The check -/

/-- The question that a sink is asked, if the severity is set. -/
def question (id : BridgeId) (name : String) : Option Severity → List Happening
  | some severity => [.severityChecked id ⟨name⟩ severity name]
  | none => []

theorem noted_progressed {b : Bridge} {marks : List Happening} {happening : Happening} :
    (progressed id b marks host).noted happening = progressed id b (marks ++ [happening]) host := by
  rw [progressed, progressed, ← List.append_assoc]
  rfl

theorem Faithful.resolves (h : (host.bridge id).Faithful settings sink) (hsink : sink.EnabledBy p)
    (name : String) :
    ∃ b marks, b.Faithful settings sink ∧ marks.filter (·.shows) = [] ∧
      Bridge.resolveLogger id name host = (.ok ⟨name⟩, progressed id b marks host) := by
  have hcreate : ∀ past past', sink.createLogger past name = sink.createLogger past' name :=
    fun past past' => (hsink.createLogger past name).trans (hsink.createLogger past' name).symm
  obtain ⟨hended, b, marks, hb, hmarks, hstate⟩ := h.resolveLogger hcreate []
  rw [hsink.createLogger] at hended
  exact ⟨b, marks, hb, hmarks, Prod.ext hended hstate⟩

/-- The sink is asked for the severity, if it is set, and for nothing else. -/
theorem Faithful.accepts (h : (host.bridge id).Faithful settings sink) (hsink : sink.EnabledBy p)
    (loggerName : Option String) (severity : Option Severity) :
    ∃ b marks, b.Faithful settings sink ∧
      marks.filter (·.shows) = question id (normalizeName loggerName) severity ∧
      Bridge.accepts id loggerName severity host =
        (.ok (severity.all (p · (normalizeName loggerName))), progressed id b marks host) := by
  cases severity with
  | none =>
    refine ⟨host.bridge id, [], h, rfl, ?_⟩
    rw [← set_eq_progressed, bridge_set_self]
    rfl
  | some severity =>
    obtain ⟨b, marks, hb, hmarks, hlogger⟩ := h.resolves hsink (normalizeName loggerName)
    refine ⟨b, marks ++ [.severityChecked id ⟨normalizeName loggerName⟩ severity
      (normalizeName loggerName)], hb, ?_, ?_⟩
    · rw [List.filter_append, hmarks]
      rfl
    · rw [accepts_some_apply, hlogger, ← noted_progressed]
      simp only [bridge_progressed, hb.sink_eq, hsink.accepts]
      rfl

/-! ## The mapping and the handing over -/

/-- An event is mapped as by a new mapper. -/
theorem Faithful.mapEvent (h : (host.bridge id).Faithful settings sink) {record : Record}
    (hrecord : (Mapper.map host.here.info event
      (.ofSettings event.framework (settings event.framework))).1 = .ok record) :
    ∃ b, b.Faithful settings sink ∧
      Bridge.mapEvent id event host = (.ok record, progressed id b [] host) := by
  obtain ⟨hended, hkept, -⟩ := Mapper.simulates_map host.here.info event
    ⟨h.mapper event.framework, Mapper.faithful_ofSettings⟩
  refine ⟨_, h.setMapper hkept, ?_⟩
  rw [← set_eq_progressed]
  exact Prod.ext (hended.trans hrecord) rfl

section Event

variable {level : Option Level} {loggerName : Option String} {record : Record}
  (h : (host.bridge id).Faithful settings sink) (hsink : sink.EnabledBy p)
  (hlevel : event.level = .ok level) (hname : event.loggerName = .ok loggerName)
include h hsink hlevel hname

/-- An event that the sink wants is handed over, with the record that a new mapper maps it to. -/
theorem Faithful.admits
    (hrecord : (Mapper.map host.here.info event
      (.ofSettings event.framework (settings event.framework))).1 = .ok record)
    (hwanted : (severityAt event level).all (p · (normalizeName loggerName))) :
    Admits id event (record.emission ⟨normalizeName loggerName⟩ host.clock
      (host.activeSpan?.map (·.context))) host := by
  -- Check, mapping and look-up follow each other, each from a bridge that is still faithful.
  obtain ⟨b, marks, hb, -, haccepts⟩ := h.accepts hsink loggerName (severityAt event level)
  have hchecked : ((progressed id b marks host).bridge id).Faithful settings sink := by
    rwa [bridge_progressed]
  obtain ⟨b', hb', hmap⟩ := hchecked.mapEvent hrecord
  have hmapped : ((progressed id b' [] (progressed id b marks host)).bridge id).Faithful
      settings sink := by
    rwa [bridge_progressed]
  obtain ⟨b'', marks'', hb'', -, hlogger⟩ := hmapped.resolves hsink (normalizeName loggerName)
  rw [hwanted] at haccepts
  refine ⟨loggerName, record, _, ⟨level, _, hlevel, hname, accepts_eq_true_iff.mp haccepts, hmap⟩,
    ⟨normalizeName loggerName⟩, _, hlogger, ?_, rfl⟩
  rw [bridge_progressed, hb''.sink_eq, hsink.createRecord]

/-- An event that the sink does not want leaves its question behind, and no accessor is called
besides those that the question needs. -/
theorem Faithful.refuses
    (hrefused : ¬ (severityAt event level).all (p · (normalizeName loggerName)))
    (echo : Attempt (Host α) Unit) :
    ∃ b marks, b.Faithful settings sink ∧
      marks.filter (·.shows) = question id (normalizeName loggerName) (severityAt event level) ∧
      ∀ event', event'.framework = event.framework → event'.level = event.level →
        event'.loggerName = event.loggerName →
        emitEvent id echo event' host = (.ok false, progressed id b marks host) := by
  obtain ⟨b, marks, hb, hmarks, haccepts⟩ := h.accepts hsink loggerName (severityAt event level)
  rw [Bool.not_eq_true] at hrefused
  rw [hrefused] at haccepts
  refine ⟨b, marks, hb, hmarks, fun event' hframework hlevel' hname' => ?_⟩
  -- The run up to the refusal reads nothing but the framework, the level and the logger name.
  have hseverity : severityAt event' level = severityAt event level := by
    rw [severityAt, severityAt, hframework]
  have hrun : mapAndEmit id echo event' host = (.ok false, progressed id b marks host) := by
    rw [mapAndEmit_apply (hlevel'.trans hlevel) (hname'.trans hname), hseverity, bind_ok haccepts]
    rfl
  rw [emitEvent, bind_apply, outcome_apply, hrun]
  rfl

end Event

/-! ## Occasions -/

/-- A capture that no other one encloses, of an event whose accessors answer, on a thread. -/
structure Occasion where
  event : Event
  thread : Thread
  outermost : thread.depths.current logRecord = 0
  answers : event.Answers

namespace Occasion

variable (occasion : Occasion) {now : Timestamp}

/-- The record that a new mapper maps the event to. -/
def record (settings : Framework → CaptureSettings) : Record :=
  (Mapper.map occasion.thread.info occasion.event
    (.ofSettings occasion.event.framework (settings occasion.event.framework))).1.toOption.getD {}

/-- What a sink is given of the event if it is captured at a time. -/
def emission (settings : Framework → CaptureSettings) (now : Timestamp) : Emission :=
  (occasion.record settings).emission ⟨occasion.event.emittedName⟩ now
    (occasion.thread.spans.head?.map (·.context))

/-- The event is mapped, since no accessor panics. -/
theorem map_eq (settings : Framework → CaptureSettings) :
    (Mapper.map occasion.thread.info occasion.event
      (.ofSettings occasion.event.framework (settings occasion.event.framework))).1 =
        .ok (occasion.record settings) := by
  rw [record]
  cases hmap : (Mapper.map occasion.thread.info occasion.event
    (.ofSettings occasion.event.framework (settings occasion.event.framework))).1 with
  | ok record => rfl
  | error panic => exact absurd (Mapper.raises_of_map _ _ hmap) (occasion.answers panic)

/-- The severity that the sink is asked about is that of the record. -/
theorem emission_severity :
    (occasion.emission settings now).severity = occasion.event.severity? := by
  obtain ⟨level, hlevel, hseverity⟩ := occasion.answers.level_eq
  rw [hseverity]
  exact Mapper.faithful_ofSettings.severity_eq (Prod.ext (occasion.map_eq settings) rfl) hlevel

theorem emission_matches {now' : Timestamp} :
    (occasion.emission settings now).Matches occasion.event (occasion.emission settings now') := by
  refine ⟨rfl, fun htimed => ?_⟩
  obtain ⟨_, _, _, _, _, _, timestamp, -, -, -, -, htimestamp, hrecord⟩ :=
    Mapper.map_eq_ok (Prod.ext (occasion.map_eq settings) rfl)
  have hset : (occasion.record settings).timestamp = timestamp := by rw [hrecord]
  cases timestamp with
  | none => exact absurd htimestamp htimed
  | some timestamp =>
    show (occasion.record settings).timestamp.getD now =
      (occasion.record settings).timestamp.getD now'
    rw [hset]
    rfl

end Occasion

theorem overlooks_severityCheck : Overlooks Happening.severityCheck? where
  loggerRequested _ _ := rfl
  recordRequested _ _ := rfl
  handed _ _ _ := rfl
  echoed _ _ := rfl
  skipped _ := rfl

/-- A report is no question. -/
theorem reports_unseen :
    (captureFailure? id event host).bind (Failure.seen Happening.severityCheck? event) = none := by
  cases captureFailure? id event host with
  | none => rfl
  | some failure =>
    show (failure.report? event).bind _ = none
    cases failure.report? event <;> rfl

/-- What is seen of marks that only ask for loggers, besides a question. -/
theorem filterMap_severityCheck? (marks : List Happening) :
    marks.filterMap Happening.severityCheck? =
      (marks.filter (·.shows)).filterMap Happening.severityCheck? := by
  rw [List.filterMap_filter]
  congr 1
  funext happening
  cases happening <;> rfl

section Capture

variable (h : (host.bridge id).Faithful settings sink) (hsink : sink.EnabledBy p)
  (occasion : Occasion) (now : Timestamp)
include h hsink

omit hsink in
/-- Where a call is placed, and that it is counted, is nothing to what a bridge remembers. -/
theorem Faithful.counted_placed (thread : Thread) (now : Timestamp) :
    (((host.placed thread now).counted logRecord).bridge id).Faithful settings sink := h

/-- On an occasion the sink is given the record of the event if it wants it, and nothing else. -/
theorem Faithful.capture_handovers :
    (capture id occasion.event (host.placed occasion.thread now)).2.handovers =
      host.handovers ++ (([occasion.emission settings now].filter (·.wantedBy p)).map (id, ·)) := by
  obtain ⟨level, hlevel, hseverity⟩ := occasion.answers.level_eq
  obtain ⟨loggerName, hname, hemitted⟩ := occasion.answers.loggerName_eq
  -- Whether the record is wanted is what the check answers, before there is a record.
  have hwanted : (occasion.emission settings now).wantedBy p =
      (severityAt occasion.event level).all (p · (normalizeName loggerName)) := by
    rw [Emission.wantedBy, occasion.emission_severity, hseverity, ← hemitted]
    rfl
  have hcounted := h.counted_placed occasion.thread now
  by_cases hp : (severityAt occasion.event level).all (p · (normalizeName loggerName))
  · have hadmits := hcounted.admits hsink hlevel hname (occasion.map_eq settings) hp
    rw [List.filter_cons_of_pos (hwanted.trans hp), List.filter_nil,
      (capture_of_admits occasion.outermost hadmits).2, ← hemitted]
    rfl
  · obtain ⟨b, marks, -, -, hrefused⟩ := hcounted.refuses hsink hlevel hname hp (echo id)
    rw [List.filter_cons_of_neg (by rwa [hwanted]), List.filter_nil, List.map_nil, List.append_nil,
      Bridge.capture_handovers]
    obtain ⟨emission, -, ⟨_, _, _, hpasses, -⟩, -⟩ | ⟨-, hsame⟩ :=
      entered_handovers id occasion.event (host.placed occasion.thread now)
    · -- The event would pass, but the sink refused it.
      have hpassed := (emitEvent_of_passes hpasses).symm.trans (hrefused _ rfl rfl rfl)
      cases congrArg Prod.fst hpassed
    · exact hsame

/-- On an occasion the sink is asked about the event if it has a severity, and not otherwise. -/
theorem Faithful.capture_checks :
    (capture id occasion.event (host.placed occasion.thread now)).2.checks =
      host.checks ++ occasion.event.question?.toList := by
  obtain ⟨level, hlevel, hseverity⟩ := occasion.answers.level_eq
  obtain ⟨loggerName, hname, hemitted⟩ := occasion.answers.loggerName_eq
  have hcounted := h.counted_placed occasion.thread now
  obtain ⟨b, marks, -, hmarks, haccepts⟩ :=
    hcounted.accepts hsink loggerName (severityAt occasion.event level)
  have hasked :
      (asked id occasion.event ((host.placed occasion.thread now).counted logRecord)).checks =
        host.checks ++ occasion.event.question?.toList := by
    rw [asked, hlevel, hname]
    simp only [haccepts]
    -- What the check leaves besides its question only asks for loggers.
    show List.filterMap _ (host.trace ++ marks) = _
    rw [List.filterMap_append, filterMap_severityCheck? marks, hmarks, Event.question?, hseverity,
      hemitted]
    cases severityAt occasion.event level <;> rfl
  have houtermost : (host.placed occasion.thread now).here.depths.current logRecord = 0 :=
    occasion.outermost
  rw [Host.checks, capture, captureWith_seen overlooks_severityCheck, if_pos houtermost,
    emitEvent_seen overlooks_severityCheck (returns_echo id), reports_unseen, Option.toList_none,
    List.append_nil]
  · exact hasked
  · intro host' hdepths
    refine echo_seen_of_nested overlooks_severityCheck ?_
    rw [hdepths logRecord]
    exact current_counted_ne_zero

end Capture

theorem Faithful.capture (h : (host.bridge id).Faithful settings sink) (event : Event) :
    ((Bridge.capture id event host).2.bridge id).Faithful settings sink :=
  (capture_keeps frame_evolvedBridges evolvedBridges_noted event host id).faithful h

/-- The capture of an event that the sink refuses asks the sink its question and does nothing else,
whatever the other accessors of the event are. -/
theorem Faithful.capture_refused (h : (host.bridge id).Faithful settings sink)
    (hsink : sink.EnabledBy p) (houtermost : host.here.depths.current logRecord = 0)
    {level : Option Level} {loggerName : Option String} (hlevel : event.level = .ok level)
    (hname : event.loggerName = .ok loggerName)
    (hrefused : ¬ (severityAt event level).all (p · (normalizeName loggerName))) :
    (Bridge.capture id event host).1 = .ok false ∧
    (∃ added, (Bridge.capture id event host).2.trace = host.trace ++ added ∧
      added.filter (·.shows) = question id (normalizeName loggerName) (severityAt event level)) ∧
    ∀ event', event'.framework = event.framework → event'.level = event.level →
      event'.loggerName = event.loggerName →
      Bridge.capture id event' host = Bridge.capture id event host := by
  have hcounted : ((host.counted logRecord).bridge id).Faithful settings sink := h
  obtain ⟨b, marks, -, hmarks, hstopped⟩ :=
    hcounted.refuses hsink hlevel hname hrefused (echo id)
  have hcapture : ∀ event', event'.framework = event.framework → event'.level = event.level →
      event'.loggerName = event.loggerName → Bridge.capture id event' host =
        (.ok false, (progressed id b marks (host.counted logRecord)).uncounted logRecord) := by
    intro event' hframework hlevel' hname'
    rw [Bridge.capture, captureWith, guarded_apply]
    simp only [Call.isOutermost, houtermost, decide_true, if_true,
      hstopped event' hframework hlevel' hname']
  rw [hcapture event rfl rfl rfl]
  exact ⟨rfl, ⟨marks, rfl, hmarks⟩, hcapture⟩

/-! ## Runs -/

/-- The host after captures in the order of the list, each at its time. -/
def captures (id : BridgeId) (host : Host α) : List (Occasion × Timestamp) → Host α
  | [] => host
  | (occasion, now) :: later =>
    captures id (capture id occasion.event (host.placed occasion.thread now)).2 later

/-- In a run the sink is given the records that it wants, and it is asked about every event that
has a severity. -/
theorem Faithful.captures (h : (host.bridge id).Faithful settings sink) (hsink : sink.EnabledBy p)
    (run : List (Occasion × Timestamp)) :
    ((captures id host run).bridge id).Faithful settings sink ∧
    (captures id host run).handovers = host.handovers ++
      ((run.map fun capture => capture.1.emission settings capture.2).filter
        (·.wantedBy p)).map (id, ·) ∧
    (captures id host run).checks =
      host.checks ++ run.filterMap fun capture => capture.1.event.question? := by
  -- One capture leaves a faithful bridge behind, from which the rest of the run goes on.
  induction run generalizing host with
  | nil => exact ⟨h, (List.append_nil _).symm, (List.append_nil _).symm⟩
  | cons first later ih =>
    obtain ⟨occasion, now⟩ := first
    have hplaced : ((host.placed occasion.thread now).bridge id).Faithful settings sink := h
    obtain ⟨hfaithful, hhanded, hasked⟩ := ih (hplaced.capture occasion.event)
    refine ⟨hfaithful, hhanded.trans ?_, hasked.trans ?_⟩
    · rw [h.capture_handovers hsink, List.append_assoc, ← List.map_append, ← List.filter_append]
      rfl
    · rw [h.capture_checks hsink, List.append_assoc, List.filterMap_cons]
      cases occasion.event.question? <;> rfl

/-- The records of two runs on the same occasions match. -/
theorem forall₂_matches {run run' : List (Occasion × Timestamp)}
    (hsame : run.map Prod.fst = run'.map Prod.fst) :
    List.Forall₂ (fun emission received => Emission.Matches received.1.event emission received.2)
      (run.map fun capture => capture.1.emission settings capture.2)
      (run'.map fun capture => (capture.1, capture.1.emission settings capture.2)) := by
  have hoccasions : List.Forall₂ (· = ·) (run.map Prod.fst) (run'.map Prod.fst) := by
    rw [List.forall₂_eq_eq_eq]
    exact hsame
  rw [List.forall₂_map_left_iff, List.forall₂_map_right_iff] at hoccasions ⊢
  refine hoccasions.imp fun capture capture' h => ?_
  rw [h]
  exact capture'.1.emission_matches

/-- Two bridges that are built alike, after any histories, capture the same events one after another
while no other capture is in progress: one to a sink that is enabled by `p`, and one to a sink that
takes everything.
* The second sink receives one record for each event, and the first sink receives those of them
  whose severity is unset or satisfies `p`, in the same order, with the same logger names and
  fields, but for the times of events that have none.
* The first sink is asked once about each event that has a severity, and about no other; what it is
  asked about are the severity and the logger name of the record.
* The capture of an event that it refuses asks the question and does nothing else, whatever the
  accessors besides level and logger name are. -/
theorem filtered_at_sink {env : Environment} {given : List (Framework × CaptureSettings)}
    {sink' : Sink} {host' : Host α'} (hsink : sink.EnabledBy p)
    (hsink' : sink'.EnabledBy fun _ _ => true)
    (hpast : HasHistory (build env given sink []).1 (host.bridge id))
    (hpast' : HasHistory (build env given sink' []).1 (host'.bridge id))
    (run run' : List (Occasion × Timestamp)) (hsame : run.map Prod.fst = run'.map Prod.fst) :
    (∃ (full : List (Occasion × Emission)) (kept : List Emission),
      full.map Prod.fst = run.map Prod.fst ∧
      (∀ received ∈ full, received.2.severity = received.1.event.severity? ∧
        received.2.logger = ⟨received.1.event.emittedName⟩) ∧
      (captures id host' run').handovers =
        host'.handovers ++ full.map (fun received => (id, received.2)) ∧
      (captures id host run).handovers = host.handovers ++ kept.map (id, ·) ∧
      List.Forall₂ (fun emission received => Emission.Matches received.1.event emission received.2)
        kept (full.filter (·.2.wantedBy p))) ∧
    (captures id host run).checks =
      host.checks ++ run.filterMap (fun capture => capture.1.event.question?) ∧
    (∀ event level loggerName thread now, thread.depths.current logRecord = 0 →
      event.level = .ok level → event.loggerName = .ok loggerName →
      ¬ (severityAt event level).all (p · (normalizeName loggerName)) →
      let next := (captures id host run).placed thread now
      (capture id event next).1 = .ok false ∧
      (∃ added, (capture id event next).2.trace = next.trace ++ added ∧
        added.filter (·.shows) = question id (normalizeName loggerName) (severityAt event level)) ∧
      ∀ event', event'.framework = event.framework → event'.level = event.level →
        event'.loggerName = event.loggerName → capture id event' next = capture id event next) := by
  have hleft := hpast.faithful (faithful_build env given sink)
  have hright := hpast'.faithful (faithful_build env given sink')
  obtain ⟨hkept, hhanded, hasked⟩ := hleft.captures hsink run
  obtain ⟨-, hfull, -⟩ := hright.captures hsink' run'
  refine ⟨⟨run'.map fun capture => (capture.1, capture.1.emission (settingsOf env given) capture.2),
    _, ?_, ?_, ?_, hhanded, ?_⟩, hasked, ?_⟩
  · rw [hsame, List.map_map]
    rfl
  · intro received hreceived
    obtain ⟨⟨occasion, now⟩, -, rfl⟩ := List.mem_map.mp hreceived
    exact ⟨occasion.emission_severity, rfl⟩
  · -- Nothing is left out of what a sink receives that takes everything.
    rw [hfull, List.filter_eq_self.mpr fun emission _ => emission.wantedBy_all, List.map_map,
      List.map_map]
    rfl
  · have hwanted : ∀ (emission : Emission) (received : Occasion × Emission),
        emission.Matches received.1.event received.2 →
        (emission.wantedBy p ↔ received.2.wantedBy p) := fun _ _ h => by rw [h.wantedBy_eq]
    exact List.rel_filter hwanted (forall₂_matches hsame)
  · intro event level loggerName thread now houtermost hlevel hname hrefused
    have hplaced : (((captures id host run).placed thread now).bridge id).Faithful
        (settingsOf env given) sink := hkept
    exact hplaced.capture_refused hsink houtermost hlevel hname hrefused

/-- An event of a level is captured. -/
def Occasion.ofLevel (level : Option Level) : Occasion where
  event := { framework := .logback, loggerName := .ok (some "web"), level := .ok level }
  thread := { info := {} }
  outermost := CallDepths.current_empty
  answers := by simp [Event.Answers, Event.Raises]

/-- The loggers take warnings and what is more severe. -/
def atLeastWarn : Sink where
  accepts _ logger severity _ := .ok (Sink.meetsThreshold [("*", ⟨.warn, 0⟩)] logger severity)

/-- An information, an error and an event without a severity, the first at a time. -/
def threeLevels (now : Timestamp) : List (Occasion × Timestamp) :=
  [(.ofLevel (some ⟨"INFO", 20000⟩), now), (.ofLevel (some ⟨"ERROR", 40000⟩), ⟨7⟩),
    (.ofLevel none, ⟨8⟩)]

/-- A host with new bridges to a sink. -/
def hostOf (sink : Sink) : Host Unit :=
  { idle () with bridge := fun _ => (build ⟨fun _ => none⟩ [] sink []).1 }

theorem hasHistory_hostOf (sink : Sink) :
    HasHistory (build ⟨fun _ => none⟩ [] sink []).1 ((hostOf sink).bridge 0) :=
  ⟨Unit, Unit, .done (), hostOf sink, 0, rfl, rfl⟩

theorem threeLevels_filtered :
    atLeastWarn.EnabledBy (fun severity name =>
      Sink.meetsThreshold [("*", ⟨.warn, 0⟩)] ⟨name⟩ severity) ∧
    Sink.EnabledBy (fun _ _ => true) {} ∧
    (threeLevels ⟨1⟩).map Prod.fst = (threeLevels ⟨2⟩).map Prod.fst ∧
    (captures 0 (hostOf atLeastWarn) (threeLevels ⟨1⟩)).checks =
      [(⟨"web"⟩, ⟨.info, 0⟩, "web"), (⟨"web"⟩, ⟨.error, 0⟩, "web")] ∧
    (captures 0 (hostOf atLeastWarn) (threeLevels ⟨1⟩)).handovers.length = 2 ∧
    (captures 0 (hostOf {}) (threeLevels ⟨2⟩)).handovers.length = 3 := by
  have hsink : atLeastWarn.EnabledBy (fun severity name =>
      Sink.meetsThreshold [("*", ⟨.warn, 0⟩)] ⟨name⟩ severity) :=
    ⟨fun _ _ => rfl, fun _ _ _ _ => rfl, fun _ _ => rfl⟩
  have hsink' : Sink.EnabledBy (fun _ _ => true) {} :=
    ⟨fun _ _ => rfl, fun _ _ _ _ => rfl, fun _ _ => rfl⟩
  have hchecks := (filtered_at_sink hsink hsink' (hasHistory_hostOf _) (hasHistory_hostOf _)
    (threeLevels ⟨1⟩) (threeLevels ⟨2⟩) rfl).2.1
  exact ⟨hsink, hsink', rfl, hchecks.trans (by decide +kernel), by decide +kernel,
    by decide +kernel⟩

end Bridge

end Telemetry
