import Telemetry.Proofs.Bridge.Outermost

/-!
# Panics that bridges stop

Which panic ends a check, an emission or a capture, by where it comes from, and what of the work of
a bridge can be seen in the trace.

* `Bridge.checkFailure?`, `Bridge.handOverFailure?`, `Bridge.captureFailure?`: the panic of the
  first accessor or stage of the sink that panics, if one does. What follows it is not called.
* `Host.seen`: what an observer has seen of the trace.

Main statements: an observer that overlooks how a record is handed over sees of an emission what is
reported of its panic (`emitWith_seen`), and of a capture, besides, what the check leaves
(`emitEvent_seen`).
-/

namespace Telemetry

/-- The panic that something ended in. -/
def raised? {α : Type} : Except Panic α → Option Panic
  | .ok _ => none
  | .error panic => some panic

theorem raised?_eq_some {α : Type} {outcome : Except Panic α} {panic : Panic}
    (h : raised? outcome = some panic) : outcome = .error panic := by
  cases outcome with
  | ok _ => cases h
  | error panic' => exact congrArg Except.error (Option.some.inj h)

/-- A panic that an instrumentation stops, by where it comes from. -/
inductive Failure where
  /-- An accessor of the event. -/
  | accessor (panic : Panic)
  /-- The sink, while it created a logger to ask or was asked for a severity. -/
  | check (panic : Panic)
  /-- The sink, while it created a logger or a record or emitted the record. -/
  | emission (panic : Panic)
  /-- The active span. -/
  | span (panic : Panic)
deriving DecidableEq, Repr

/-- The panic itself. -/
def Failure.panic : Failure → Panic
  | accessor panic | check panic | emission panic | span panic => panic

/-- The panic is one of what the failure names: an accessor of the event, or a stage of the sink. -/
def Failure.RaisedBy (event : Event) (sink : Sink) : Failure → Prop
  | accessor panic => event.Raises panic
  | check panic => (∃ past name, sink.createLogger past name = .error panic) ∨
    ∃ past logger severity name, sink.accepts past logger severity name = .error panic
  | emission panic => (∃ past name, sink.createLogger past name = .error panic) ∨
    (∃ past logger, sink.createRecord past logger = .error panic) ∨
    ∃ past emission, sink.emit past emission = .error panic
  | span _ => False

/-- What is reported of a failure while an event is captured. -/
def Failure.report? (event : Event) : Failure → Option Diagnostic
  | .accessor panic => some (.capturePanicked event.framework panic.message)
  | .emission panic => event.loggerName.toOption.map fun loggerName =>
    .emitPanicked (Bridge.normalizeName loggerName) panic.message
  | .check _ | .span _ => none

/-- What an observer sees of the report of a failure. -/
def Failure.seen {γ : Type} (f : Happening → Option γ) (event : Event) (failure : Failure) :
    Option γ :=
  (failure.report? event).bind fun diagnostic => f (.reported diagnostic)

namespace Host

variable {α γ : Type} {f : Happening → Option γ} {host : Host α}

/-- What an observer has seen so far, in order. -/
def seen (f : Happening → Option γ) (host : Host α) : List γ := host.trace.filterMap f

theorem seen_noted {happening : Happening} :
    (host.noted happening).seen f = host.seen f ++ (f happening).toList := by
  rw [seen, noted, List.filterMap_append]
  cases hseen : f happening <;> simp [hseen, seen]

theorem seen_noted_of_none {happening : Happening} (h : f happening = none) :
    (host.noted happening).seen f = host.seen f := by
  rw [seen_noted, h, Option.toList_none, List.append_nil]

end Host

namespace Bridge

open Attempt Host

variable {α γ : Type} {f : Happening → Option γ} {id : BridgeId} {event : Event} {host : Host α}
  {loggerName : Option String} {severity : Option Severity} {record : Record} {name : String}

/-! ## Failures by their origin -/

/-- The panic that ends the check of a severity. -/
def checkFailure? (id : BridgeId) (loggerName : Option String) (severity : Option Severity)
    (host : Host α) : Option Panic :=
  match severity with
  | none => none
  | some severity =>
    let name := normalizeName loggerName
    match resolveLogger id name host with
    | (.ok logger, host) =>
      raised? ((host.bridge id).sink.accepts host.trace logger severity name)
    | (.error panic, _) => some panic

/-- The panic that ends the handing over of a record. -/
def handOverFailure? (id : BridgeId) (record : Record) (name : String) (host : Host α) :
    Option Panic :=
  match resolveLogger id name host with
  | (.ok logger, host) =>
    match (host.bridge id).sink.createRecord host.trace logger with
    | .ok () =>
      raised? ((host.bridge id).sink.emit (host.noted (.recordRequested id logger)).trace
        (record.emission logger host.clock (host.activeSpan?.map (·.context))))
    | .error panic => some panic
  | (.error panic, _) => some panic

/-- The panic that is stopped while an event is captured. -/
def captureFailure? (id : BridgeId) (event : Event) (host : Host α) : Option Failure :=
  match event.level, event.loggerName with
  | .ok level, .ok loggerName =>
    match checkFailure? id loggerName (severityAt event level) host with
    | some panic => some (.check panic)
    | none =>
      match accepts id loggerName (severityAt event level) host with
      | (.ok true, host) =>
        match mapEvent id event host with
        | (.ok record, host) =>
          (handOverFailure? id record (normalizeName loggerName) host).map .emission
        | (.error panic, _) => some (.accessor panic)
      | _ => none
  | .ok _, .error panic | .error panic, _ => some (.accessor panic)

/-! ## Where failures come from -/

/-- A logger is refused as the sink refuses it. -/
theorem resolveLogger_raised {name : String} {panic : Panic} {host₁ : Host α}
    (h : resolveLogger id name host = (.error panic, host₁)) :
    ∃ past, (host.bridge id).sink.createLogger past name = .error panic := by
  cases hget : ((host.bridge id).loggers.get name).1 with
  | some logger =>
    rw [resolveLogger_of_hit hget] at h
    cases h
  | none =>
    rw [resolveLogger_of_miss hget] at h
    cases hcreated : (host.bridge id).sink.createLogger host.trace name with
    | ok =>
      rw [hcreated] at h
      cases h
    | error panic' =>
      rw [hcreated] at h
      cases h
      exact ⟨host.trace, hcreated⟩

theorem resolveLogger_sink {name : String} {logger : Logger} {host₁ : Host α}
    (h : resolveLogger id name host = (.ok logger, host₁)) :
    (host₁.bridge id).sink = (host.bridge id).sink := by
  have hkept : EvolvedBridges host host₁ :=
    (resolveLogger_keeps frame_evolvedBridges name).of_apply h
  exact (hkept id).sink_eq

theorem checkFailure?_raised {panic : Panic}
    (h : checkFailure? id loggerName severity host = some panic) :
    (Failure.check panic).RaisedBy event (host.bridge id).sink := by
  cases severity with
  | none => cases h
  | some severity =>
    rw [checkFailure?] at h
    cases hlogger : resolveLogger id (normalizeName loggerName) host with
    | mk ended host₁ =>
      rw [hlogger] at h
      cases ended with
      | error panic' =>
        obtain rfl : panic' = panic := Option.some.inj h
        obtain ⟨past, hcreated⟩ := resolveLogger_raised hlogger
        exact Or.inl ⟨past, _, hcreated⟩
      | ok logger =>
        rw [← resolveLogger_sink hlogger]
        exact Or.inr ⟨_, _, _, _, raised?_eq_some h⟩

theorem handOverFailure?_raised {name : String} {panic : Panic}
    (h : handOverFailure? id record name host = some panic) :
    (Failure.emission panic).RaisedBy event (host.bridge id).sink := by
  rw [handOverFailure?] at h
  cases hlogger : resolveLogger id name host with
  | mk ended host₁ =>
    rw [hlogger] at h
    cases ended with
    | error panic' =>
      obtain rfl : panic' = panic := Option.some.inj h
      obtain ⟨past, hcreated⟩ := resolveLogger_raised hlogger
      exact Or.inl ⟨past, _, hcreated⟩
    | ok logger =>
      rw [← resolveLogger_sink hlogger]
      cases hcreate : (host₁.bridge id).sink.createRecord host₁.trace logger with
      | error panic' =>
        simp only [hcreate] at h
        obtain rfl : panic' = panic := Option.some.inj h
        exact Or.inr (Or.inl ⟨_, _, hcreate⟩)
      | ok =>
        simp only [hcreate] at h
        exact Or.inr (Or.inr ⟨_, _, raised?_eq_some h⟩)

/-- What is stopped while an event is captured is a panic of its accessors or of the sink. -/
theorem captureFailure?_raised {failure : Failure}
    (h : captureFailure? id event host = some failure) :
    failure.RaisedBy event (host.bridge id).sink := by
  rw [captureFailure?] at h
  cases hlevel : event.level with
  | error panic =>
    simp only [hlevel] at h
    cases h
    exact Or.inr (Or.inl hlevel)
  | ok level =>
    cases hname : event.loggerName with
    | error panic =>
      simp only [hlevel, hname] at h
      cases h
      exact Or.inl hname
    | ok loggerName =>
      simp only [hlevel, hname] at h
      split at h
      next panic hcheck =>
        cases h
        exact checkFailure?_raised hcheck
      next =>
        split at h
        next host₁ haccepts =>
          have haccepted : EvolvedBridges host host₁ :=
            (accepts_keeps frame_evolvedBridges loggerName _).of_apply haccepts
          -- The sink that fails later is still the one that there was at the start.
          split at h
          next record host₂ hmap =>
            have hmapped : EvolvedBridges host₁ host₂ :=
              (mapEvent_keeps frame_evolvedBridges event).of_apply hmap
            obtain ⟨panic, hfailure, rfl⟩ := Option.map_eq_some_iff.mp h
            rw [← (haccepted id).sink_eq, ← (hmapped id).sink_eq]
            exact handOverFailure?_raised hfailure
          next panic host₂ hmap =>
            cases h
            exact Mapper.raises_of_map _ _ (congrArg Prod.fst hmap)
        next => cases h

/-! ## What can be seen -/

/-- An observer that overlooks how a record is handed over, and that a capture was skipped. -/
structure Overlooks (f : Happening → Option γ) : Prop where
  loggerRequested : ∀ id name, f (.loggerRequested id name) = none
  recordRequested : ∀ id logger, f (.recordRequested id logger) = none
  handed : ∀ id emission answer, f (.handed id emission answer) = none
  echoed : ∀ id captured, f (.echoed id captured) = none
  skipped : ∀ depth, f (.reported (.nestedCaptureSkipped depth)) = none

section Seen

variable (hf : Overlooks f)
include hf

theorem resolveLogger_seen : (resolveLogger id name host).2.seen f = host.seen f := by
  have hrequested : (host.noted (.loggerRequested id name)).seen f = host.seen f :=
    seen_noted_of_none (hf.loggerRequested id name)
  cases hget : ((host.bridge id).loggers.get name).1 with
  | some logger =>
    rw [resolveLogger_of_hit hget]
    rfl
  | none =>
    rw [resolveLogger_of_miss hget]
    cases (host.bridge id).sink.createLogger host.trace name <;> exact hrequested

/-- Handing a record over ends in its failure, if it has one, and nothing of it is seen. -/
theorem handOver_spec :
    raised? (handOver id (pure ()) record name host).1 = handOverFailure? id record name host ∧
      (handOver id (pure ()) record name host).2.seen f = host.seen f := by
  have hresolved : (resolveLogger id name host).2.seen f = host.seen f := resolveLogger_seen hf
  cases hlogger : resolveLogger id name host with
  | mk ended host₁ =>
    rw [hlogger] at hresolved
    rw [handOverFailure?, hlogger]
    cases ended with
    | error panic =>
      rw [handOver_of_no_logger hlogger]
      exact ⟨rfl, hresolved⟩
    | ok logger =>
      have hrequested : (host₁.noted (.recordRequested id logger)).seen f = host.seen f :=
        (seen_noted_of_none (hf.recordRequested id logger)).trans hresolved
      cases hcreate : (host₁.bridge id).sink.createRecord host₁.trace logger with
      | error panic =>
        rw [handOver_of_no_record hlogger hcreate]
        exact ⟨by simp only [hcreate]; rfl, hrequested⟩
      | ok =>
        rw [handOver_apply hlogger hcreate]
        simp only [hcreate]
        cases (host₁.bridge id).sink.emit (host₁.noted (.recordRequested id logger)).trace
          (record.emission logger host₁.clock (host₁.activeSpan?.map (·.context))) <;>
        exact ⟨rfl, (seen_noted_of_none (hf.handed _ _ _)).trans hrequested⟩

omit hf

theorem emitWith_snd {echo : Attempt (Host α) Unit} (hecho : Returns echo) :
    (emitWith id echo record loggerName host).2 =
      match handOver id (pure ()) record (normalizeName loggerName) host with
      | (.ok (), host) => (echo host).2
      | (.error panic, host) =>
        host.noted (.reported (.emitPanicked (normalizeName loggerName) panic.message)) := by
  rw [emitWith, handOver_eq_bind, bind_apply, outcome_apply]
  cases hended : handOver id (pure ()) record (normalizeName loggerName) host with
  | mk ended host₁ =>
    cases ended with
    | error panic =>
      rw [bind_error hended]
      rfl
    | ok _ =>
      obtain ⟨_, hechoed⟩ := hecho host₁
      rw [bind_ok hended, hechoed]
      rfl

include hf

/-- Of an emission the report of its failure is seen, or else what the sink does afterwards. -/
theorem emitWith_seen {echo : Attempt (Host α) Unit} (hecho : Returns echo) :
    (emitWith id echo record loggerName host).2.seen f =
      match handOverFailure? id record (normalizeName loggerName) host with
      | some panic => host.seen f ++
          (f (.reported (.emitPanicked (normalizeName loggerName) panic.message))).toList
      | none =>
        (echo (handOver id (pure ()) record (normalizeName loggerName) host).2).2.seen f := by
  obtain ⟨hended, hkept⟩ :
      raised? (handOver id (pure ()) record (normalizeName loggerName) host).1 = _ ∧
        Host.seen f _ = _ := handOver_spec hf
  rw [← hended, emitWith_snd hecho]
  cases hrun : handOver id (pure ()) record (normalizeName loggerName) host with
  | mk ended host₁ =>
    rw [hrun] at hkept
    cases ended with
    | error panic =>
      show (host₁.noted _).seen f = _
      rw [seen_noted, hkept]
      rfl
    | ok _ => rfl

omit hf

/-- A check that the sink fails counts as a refusal. -/
theorem accepts_of_checkFailure {panic : Panic}
    (h : checkFailure? id loggerName severity host = some panic) :
    (accepts id loggerName severity host).1 = .ok false := by
  cases severity with
  | none => cases h
  | some severity =>
    rw [accepts_some_apply]
    rw [checkFailure?] at h
    cases hlogger : resolveLogger id (normalizeName loggerName) host with
    | mk ended host₁ =>
      cases ended with
      | error panic => rfl
      | ok logger =>
        simp only [hlogger] at h ⊢
        cases hasked : (host₁.bridge id).sink.accepts host₁.trace logger severity
          (normalizeName loggerName) with
        | ok answer => simp [hasked, raised?] at h
        | error panic => rfl

/-- The host once the sink has been asked for the severity of an event. -/
def asked (id : BridgeId) (event : Event) (host : Host α) : Host α :=
  match event.level, event.loggerName with
  | .ok level, .ok loggerName => (accepts id loggerName (severityAt event level) host).2
  | _, _ => host

/-- Capturing an event that passes can only fail at the end. -/
theorem captureFailure?_of_passes {host₁ : Host α}
    (h : Passes id event loggerName record host host₁) :
    captureFailure? id event host =
      (handOverFailure? id record (normalizeName loggerName) host₁).map .emission := by
  obtain ⟨level, host₀, hlevel, hname, henabled, hmap⟩ := h
  have haccepts := accepts_eq_true_iff.mpr henabled
  -- A check that accepts has not failed, since failing counts as refusing.
  have hcheck : checkFailure? id loggerName (severityAt event level) host = none := by
    by_contra hne
    obtain ⟨panic, hpanic⟩ := Option.ne_none_iff_exists'.mp hne
    have hrefused := accepts_of_checkFailure hpanic
    rw [haccepts] at hrefused
    cases hrefused
  rw [captureFailure?, hlevel, hname]
  simp only [hcheck, haccepts, hmap]

theorem Passes.asked_trace {host₁ : Host α} (h : Passes id event loggerName record host host₁) :
    host₁.trace = (asked id event host).trace := by
  obtain ⟨level, host₀, hlevel, hname, henabled, hmap⟩ := h
  have hmapped : (mapEvent id event host₀).2.trace = host₀.trace := rfl
  rw [asked, hlevel, hname]
  simp only [accepts_eq_true_iff.mpr henabled]
  rw [← hmapped, hmap]

theorem emitEvent_snd {echo : Attempt (Host α) Unit} :
    (emitEvent id echo event host).2 =
      match mapAndEmit id echo event host with
      | (.ok _, host) => host
      | (.error panic, host) =>
        host.noted (.reported (.capturePanicked event.framework panic.message)) := by
  rw [emitEvent, bind_apply, outcome_apply]
  cases mapAndEmit id echo event host with
  | mk ended host₁ => cases ended <;> rfl

/-- An event that does not pass is stopped by an accessor that panics or by the check. -/
theorem mapAndEmit_stops {echo : Attempt (Host α) Unit}
    (h : ∀ loggerName record host₁, ¬ Passes id event loggerName record host host₁) :
    (∃ panic host₁, mapAndEmit id echo event host = (.error panic, host₁) ∧
      captureFailure? id event host = some (.accessor panic) ∧
      host₁.trace = (asked id event host).trace) ∨
    (mapAndEmit id echo event host = (.ok false, asked id event host) ∧
      ∀ failure, captureFailure? id event host = some failure →
        ∃ panic, failure = .check panic) := by
  rw [asked, captureFailure?]
  cases hlevel : event.level with
  | error panic => exact Or.inl ⟨panic, host, by rw [mapAndEmit, hlevel]; rfl, rfl, rfl⟩
  | ok level =>
    cases hname : event.loggerName with
    | error panic => exact Or.inl ⟨panic, host, by rw [mapAndEmit, hlevel, hname]; rfl, rfl, rfl⟩
    | ok loggerName =>
      rw [mapAndEmit_apply hlevel hname]
      obtain ⟨answer, hanswer⟩ := returns_accepts id loggerName (severityAt event level) host
      cases hcheck : accepts id loggerName (severityAt event level) host with
      | mk ended host₀ =>
        obtain rfl : ended = .ok answer := by rwa [hcheck] at hanswer
        rw [bind_ok hcheck]
        cases hfailure : checkFailure? id loggerName (severityAt event level) host with
        | some panic =>
          -- A check that failed refuses.
          have hrefused := accepts_of_checkFailure hfailure
          rw [hcheck] at hrefused
          obtain rfl : answer = false := Except.ok.inj hrefused
          refine Or.inr ⟨by simp only [hcheck]; rfl, fun failure h => ⟨panic, ?_⟩⟩
          simp only [hfailure] at h
          exact (Option.some.inj h).symm
        | none =>
          cases answer with
          | false => exact Or.inr ⟨by simp only [hcheck]; rfl, by simp [hcheck, hfailure]⟩
          | true =>
            cases hmap : mapEvent id event host₀ with
            | mk ended host₁ =>
              cases ended with
              | ok record =>
                exact absurd ⟨level, host₀, hlevel, hname, accepts_eq_true_iff.mp hcheck, hmap⟩
                  (h loggerName record host₁)
              | error panic =>
                have hmapped : host₁.trace = host₀.trace := congrArg (·.2.trace) hmap.symm
                refine Or.inl ⟨panic, host₁, ?_, by simp only [hfailure, hcheck, hmap], ?_⟩
                · rw [if_pos rfl, bind_error hmap]
                · simp only [hcheck, hmapped]

include hf

/-- Of a capture the check is seen, and the report of its failure. -/
theorem emitEvent_seen {echo : Attempt (Host α) Unit} (hecho : Returns echo)
    (hquiet : ∀ host', SameDepths host host' → (echo host').2.seen f = host'.seen f) :
    (emitEvent id echo event host).2.seen f =
      (asked id event host).seen f ++
        ((captureFailure? id event host).bind (Failure.seen f event)).toList := by
  by_cases hpasses : ∃ loggerName record host₁, Passes id event loggerName record host host₁
  · obtain ⟨loggerName, record, host₁, hpasses⟩ := hpasses
    have hseen : host₁.seen f = (asked id event host).seen f := by
      rw [Host.seen, Host.seen, hpasses.asked_trace]
    have hname : event.loggerName = .ok loggerName := by
      obtain ⟨_, _, _, hname, -⟩ := hpasses
      exact hname
    rw [emitEvent_of_passes hpasses, emitWith_seen hf hecho, captureFailure?_of_passes hpasses,
      ← hseen]
    cases hfailure : handOverFailure? id record (normalizeName loggerName) host₁ with
    | some panic =>
      simp [Failure.seen, Failure.report?, hname, Except.toOption]
    | none =>
      -- The record is handed over, and what the sink does afterwards is not seen.
      have hhanded : SameDepths host₁ (handOver id (pure ()) record (normalizeName loggerName)
          host₁).2 :=
        handOver_keeps frame_sameDepths sameDepths_noted (frame_sameDepths.pure ()) record _ host₁
      have hdepths := frame_sameDepths.trans _ _ _ (hpasses.frame frame_sameDepths) hhanded
      simp only [hquiet _ hdepths, (handOver_spec hf).2, Option.map_none, Option.bind_none,
        Option.toList_none, List.append_nil]
  · have hnone : ∀ loggerName record host₁, ¬ Passes id event loggerName record host host₁ :=
      fun loggerName record host₁ h => hpasses ⟨loggerName, record, host₁, h⟩
    rw [emitEvent_snd]
    obtain ⟨panic, host₁, hrun, hfailure, htrace⟩ | ⟨hrun, hfailure⟩ := mapAndEmit_stops hnone
    · -- An accessor panicked, and besides the check only the report of it is seen.
      have hseen : host₁.seen f = (asked id event host).seen f := by
        rw [Host.seen, Host.seen, htrace]
      rw [hrun, hfailure, ← hseen]
      exact seen_noted
    · rw [hrun]
      cases hcapture : captureFailure? id event host with
      | none => exact (List.append_nil _).symm
      | some failure =>
        -- The check failed, and nobody reports it.
        obtain ⟨panic, rfl⟩ := hfailure failure hcapture
        exact (List.append_nil _).symm

/-- Within a capture, what the sink does after it has emitted is not seen. -/
theorem echo_seen_of_nested (h : host.here.depths.current logRecord ≠ 0) :
    (echo id host).2.seen f = host.seen f := by
  have hget : (get : Attempt (Host α) (Host α)) host = (.ok host, host) := rfl
  rw [echo, bind_ok hget]
  cases (host.bridge id).sink.echo with
  | none => rfl
  | some logged =>
    -- The capture of what the sink logs is skipped, since one is in progress.
    have hskipped : ((host.counted logRecord).noted (.reported (.nestedCaptureSkipped
        (host.here.depths.current logRecord)))).seen f = host.seen f :=
      seen_noted_of_none (hf.skipped _)
    simp only [bind_ok (captureWith_nested h)]
    exact (seen_noted_of_none (hf.echoed id false)).trans hskipped

/-- Of an outermost capture what its event leaves is seen, and of any other capture nothing. -/
theorem captureWith_seen {echo : Attempt (Host α) Unit} :
    (captureWith id echo event host).2.seen f =
      if host.here.depths.current logRecord = 0 then
        (emitEvent id echo event (host.counted logRecord)).2.seen f
      else host.seen f := by
  split
  next hdepth =>
    rw [captureWith, guarded_apply]
    simp only [Call.isOutermost, hdepth, decide_true, if_true]
    rfl
  next hdepth =>
    rw [captureWith_nested hdepth]
    exact seen_noted_of_none (hf.skipped _)

end Seen

end Bridge

end Telemetry
