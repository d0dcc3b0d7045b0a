import Telemetry.Proofs.Bridge.Frame

/-!
# Which events are emitted

Whether an event that is captured becomes a record that a sink is given, stage by stage, each on the
host that the stages before it left behind.

* `Bridge.Passes`: level, logger name and the check of the severity let the event through, and
  mapping it succeeds.
* `Bridge.Admits`: besides, the sink creates the logger and an empty record, so that the record of
  the event is handed over.

Main statements: `emitEvent_answer`, the event counts as captured just if it passes, and
`emitEvent_handovers`, within a capture one record is handed over if the event is admitted and none
if it is not, whatever the sink logs on its own while it emits.
-/

namespace Telemetry.Bridge

open Attempt Host

variable {α : Type} {id : BridgeId} {event : Event} {host host' : Host α}
  {loggerName : Option String} {severity : Option Severity} {record : Record}

/-! ## The stages -/

/-- The severity that an event has by its level. -/
def severityAt (event : Event) (level : Option Level) : Option Severity :=
  level.bind fun level => event.framework.ladder.severity? level.value

/-- The severity is unset, or the sink has a logger of the name and that logger takes records of
the severity. The check leaves `host'` behind. -/
def Enabled (id : BridgeId) (name : String) (severity : Option Severity) (host host' : Host α) :
    Prop :=
  match severity with
  | none => host' = host
  | some severity => ∃ logger host₁,
    resolveLogger id name host = (.ok logger, host₁) ∧
    (host₁.bridge id).sink.accepts host₁.trace logger severity name = .ok true ∧
    host' = host₁.noted (.severityChecked id logger severity name)

/-- The accessors of level and logger name do not panic, the check lets the event through, and the
event is mapped to `record`. This leaves `host'` behind. -/
def Passes (id : BridgeId) (event : Event) (loggerName : Option String) (record : Record)
    (host host' : Host α) : Prop :=
  ∃ level host₁,
    event.level = .ok level ∧
    event.loggerName = .ok loggerName ∧
    Enabled id (normalizeName loggerName) (severityAt event level) host host₁ ∧
    mapEvent id event host₁ = (.ok record, host')

/-- The sink has a logger of the name and creates an empty record, and `emission` is what it is
given of `record`. -/
def Ready (id : BridgeId) (record : Record) (name : String) (emission : Emission)
    (host : Host α) : Prop :=
  ∃ logger host₁,
    resolveLogger id name host = (.ok logger, host₁) ∧
    (host₁.bridge id).sink.createRecord host₁.trace logger = .ok () ∧
    emission = record.emission logger host₁.clock (host₁.activeSpan?.map (·.context))

/-- The event passes, and its record is handed over as `emission`. -/
def Admits (id : BridgeId) (event : Event) (emission : Emission) (host : Host α) : Prop :=
  ∃ loggerName record host₁,
    Passes id event loggerName record host host₁ ∧
    Ready id record (normalizeName loggerName) emission host₁

/-! ## The check and the mapping -/

theorem accepts_none_apply : accepts id loggerName none host = (.ok true, host) := rfl

/-- The sink is asked for a severity behind a boundary, where a panic counts as a refusal. -/
theorem accepts_some_apply {severity : Severity} :
    accepts id loggerName (some severity) host =
      match resolveLogger id (normalizeName loggerName) host with
      | (.ok logger, host₁) =>
        (.ok (((host₁.bridge id).sink.accepts host₁.trace logger severity
            (normalizeName loggerName)).toOption.getD false),
          host₁.noted (.severityChecked id logger severity (normalizeName loggerName)))
      | (.error _, host₁) => (.ok false, host₁) := by
  cases hlogger : resolveLogger id (normalizeName loggerName) host with
  | mk ended host₁ =>
    cases ended with
    | ok logger =>
      simp only [accepts, bind_apply, outcome_apply, pure_apply, hlogger, callSink_apply]
    | error panic => simp only [accepts, bind_apply, outcome_apply, pure_apply, hlogger]; rfl

/-- The check answers in any case. -/
theorem returns_accepts (id : BridgeId) (loggerName : Option String)
    (severity : Option Severity) : Returns (accepts (α := α) id loggerName severity) := by
  intro host
  cases severity with
  | none => exact ⟨true, rfl⟩
  | some severity => rw [accepts_some_apply]; split <;> exact ⟨_, rfl⟩

/-- The check answers `true` just if the sink enables the severity. -/
theorem accepts_eq_true_iff :
    accepts id loggerName severity host = (.ok true, host') ↔
      Enabled id (normalizeName loggerName) severity host host' := by
  cases severity with
  | none => simp [accepts_none_apply, Enabled, eq_comm]
  | some severity =>
    rw [accepts_some_apply, Enabled]
    constructor
    · intro h
      split at h
      next logger host₁ hlogger =>
        obtain ⟨hanswer, hstate⟩ := Prod.ext_iff.mp h
        refine ⟨logger, host₁, hlogger, ?_, hstate.symm⟩
        -- The answer is `true`, so the sink neither refused nor panicked.
        simp only [Except.ok.injEq] at hanswer
        cases hsink : (host₁.bridge id).sink.accepts host₁.trace logger severity
          (normalizeName loggerName) with
        | ok answer => simpa [hsink, Except.toOption] using hanswer
        | error panic => simp [hsink, Except.toOption] at hanswer
      next => cases h
    · rintro ⟨logger, host₁, hlogger, hanswer, rfl⟩
      rw [hlogger]
      simp only [hanswer]
      rfl

/-! ## Mapping and emitting -/

section Emit

variable {echo : Attempt (Host α) Unit}

/-- Emitting answers in any case. -/
theorem emitWith_fst : (emitWith id echo record loggerName host).1 = .ok () := by
  rw [emitWith, bind_apply]
  simp only [outcome_apply]
  cases (handOver id echo record (normalizeName loggerName) host).1 <;> rfl

/-- An event passes with one logger name, one record and one host behind it. -/
theorem Passes.unique {loggerName' : Option String} {record' : Record} {host₁ host₁' : Host α}
    (h : Passes id event loggerName record host host₁)
    (h' : Passes id event loggerName' record' host host₁') :
    loggerName = loggerName' ∧ record = record' ∧ host₁ = host₁' := by
  obtain ⟨level, host₀, hlevel, hname, henabled, hmap⟩ := h
  obtain ⟨level', host₀', hlevel', hname', henabled', hmap'⟩ := h'
  -- Accessors, check and mapping are functions, so each stage has one result.
  obtain rfl : level = level' := Except.ok.inj (hlevel.symm.trans hlevel')
  obtain rfl : loggerName = loggerName' := Except.ok.inj (hname.symm.trans hname')
  have hcheck := (accepts_eq_true_iff.mpr henabled).symm.trans (accepts_eq_true_iff.mpr henabled')
  obtain rfl : host₀ = host₀' := congrArg Prod.snd hcheck
  have hmapped := hmap.symm.trans hmap'
  exact ⟨rfl, Except.ok.inj (congrArg Prod.fst hmapped), congrArg Prod.snd hmapped⟩

/-- An event is handed over in one way. -/
theorem Admits.unique {emission emission' : Emission} (h : Admits id event emission host)
    (h' : Admits id event emission' host) : emission = emission' := by
  obtain ⟨loggerName, record, host₁, hpasses, logger, host₂, hlogger, -, rfl⟩ := h
  obtain ⟨loggerName', record', host₁', hpasses', logger', host₂', hlogger', -, rfl⟩ := h'
  obtain ⟨rfl, rfl, rfl⟩ := hpasses.unique hpasses'
  have hresolved := hlogger.symm.trans hlogger'
  obtain rfl : logger = logger' := Except.ok.inj (congrArg Prod.fst hresolved)
  obtain rfl : host₂ = host₂' := congrArg Prod.snd hresolved
  rfl

/-- A check that lets an event through keeps every frame. -/
theorem Enabled.frame {name : String} (h : Enabled id name severity host host')
    {R : Host α → Host α → Prop} (hR : Frame R) : R host host' := by
  cases severity with
  | none =>
    obtain rfl : host' = host := h
    exact hR.refl host'
  | some severity =>
    obtain ⟨logger, host₁, hlogger, -, rfl⟩ := h
    have hkept : R host host₁ := (resolveLogger_keeps hR name).of_apply hlogger
    exact hR.trans _ _ _ hkept (hR.noted _ _ rfl)

/-- The stages that an event passes keep every frame. -/
theorem Passes.frame {host₁ : Host α} (h : Passes id event loggerName record host host₁)
    {R : Host α → Host α → Prop} (hR : Frame R) : R host host₁ := by
  obtain ⟨level, host₀, -, -, henabled, hmap⟩ := h
  have hmapped : R host₀ host₁ := (mapEvent_keeps hR event).of_apply hmap
  exact hR.trans _ _ _ (henabled.frame hR) hmapped

/-- Once level and logger name are known, the check decides whether the event is mapped. -/
theorem mapAndEmit_apply {level : Option Level} (hlevel : event.level = .ok level)
    (hname : event.loggerName = .ok loggerName) :
    mapAndEmit id echo event host =
      (do
        if ← accepts id loggerName (severityAt event level) then
          let record ← mapEvent id event
          emitWith id echo record loggerName
          return true
        else return false : Attempt (Host α) Bool) host := by
  rw [mapAndEmit, hlevel, hname]
  rfl

/-- An event that passes is emitted, and counts as captured however that ends. -/
theorem mapAndEmit_of_passes {host₁ : Host α} (h : Passes id event loggerName record host host₁) :
    mapAndEmit id echo event host =
      (.ok true, (emitWith id echo record loggerName host₁).2) := by
  obtain ⟨level, host₀, hlevel, hname, henabled, hmap⟩ := h
  have hemit : emitWith id echo record loggerName host₁ =
      (.ok (), (emitWith id echo record loggerName host₁).2) := Prod.ext emitWith_fst rfl
  rw [mapAndEmit_apply hlevel hname]
  refine (bind_ok (accepts_eq_true_iff.mpr henabled)).trans ?_
  exact (bind_ok hmap).trans (bind_ok hemit)

/-- An event that does not pass does not count as captured, and all that is kept before records
are handed over is kept. -/
theorem mapAndEmit_of_not_passes {R : Host α → Host α → Prop} (hR : Frame R)
    (h : ∀ loggerName record host₁, ¬ Passes id event loggerName record host host₁) :
    (mapAndEmit id echo event host).1 ≠ .ok true ∧ R host (mapAndEmit id echo event host).2 := by
  cases hlevel : event.level with
  | error panic =>
    have hrun : mapAndEmit id echo event host = (.error panic, host) := by
      rw [mapAndEmit, hlevel]; rfl
    rw [hrun]
    exact ⟨nofun, hR.refl host⟩
  | ok level =>
    -- Both accessors answer, so it is the check or the mapping that stops the event.
    cases hname : event.loggerName with
    | error panic =>
      have hrun : mapAndEmit id echo event host = (.error panic, host) := by
        rw [mapAndEmit, hlevel, hname]; rfl
      rw [hrun]
      exact ⟨nofun, hR.refl host⟩
    | ok loggerName =>
      obtain ⟨answer, hanswer⟩ := returns_accepts id loggerName (severityAt event level) host
      rw [mapAndEmit_apply hlevel hname]
      cases hcheck : accepts id loggerName (severityAt event level) host with
      | mk ended host₀ =>
        have hkept : R host host₀ := (accepts_keeps hR loggerName _).of_apply hcheck
        obtain rfl : ended = .ok answer := by rwa [hcheck] at hanswer
        rw [bind_ok hcheck]
        cases answer with
        | false => exact ⟨nofun, hkept⟩
        | true =>
          cases hmap : mapEvent id event host₀ with
          | mk ended host₁ =>
            have hmapped : R host host₁ :=
              hR.trans _ _ _ hkept ((mapEvent_keeps hR event).of_apply hmap)
            cases ended with
            | ok record =>
              refine absurd ⟨level, host₀, hlevel, hname, ?_, hmap⟩ (h loggerName record host₁)
              exact accepts_eq_true_iff.mp hcheck
            | error panic =>
              rw [if_pos rfl, bind_error hmap]
              exact ⟨nofun, hmapped⟩

theorem emitEvent_of_passes {host₁ : Host α} (h : Passes id event loggerName record host host₁) :
    emitEvent id echo event host = (.ok true, (emitWith id echo record loggerName host₁).2) := by
  have houtcome : (mapAndEmit id echo event).outcome host =
      (.ok (.ok true), (emitWith id echo record loggerName host₁).2) := by
    rw [outcome_apply, mapAndEmit_of_passes h]
  exact bind_ok houtcome

theorem emitEvent_of_not_passes {R : Host α → Host α → Prop} (hR : Frame R)
    (h : ∀ loggerName record host₁, ¬ Passes id event loggerName record host host₁) :
    (emitEvent id echo event host).1 = .ok false ∧ R host (emitEvent id echo event host).2 := by
  have hmapped : (mapAndEmit id echo event host).1 ≠ .ok true ∧
      R host (mapAndEmit id echo event host).2 := mapAndEmit_of_not_passes hR h
  obtain ⟨hended, hkept⟩ := hmapped
  rw [emitEvent, bind_apply, outcome_apply]
  cases hrun : mapAndEmit id echo event host with
  | mk ended host' =>
    rw [hrun] at hended hkept
    match ended with
    | .ok true => exact absurd rfl hended
    | .ok false => exact ⟨rfl, hkept⟩
    -- A panic is reported, and the answer is that nothing was captured.
    | .error panic => exact ⟨rfl, hR.trans _ _ _ hkept (report_keeps hR _ host')⟩

/-- The event counts as captured just if it passes, however emitting it ends. -/
theorem emitEvent_answer :
    ∃ captured, (emitEvent id echo event host).1 = .ok captured ∧
      (captured = true ↔ ∃ loggerName record host₁,
        Passes id event loggerName record host host₁) := by
  by_cases h : ∃ loggerName record host₁, Passes id event loggerName record host host₁
  · -- From here on the answer is fixed: emitting cannot change it.
    obtain ⟨loggerName, record, host₁, hpasses⟩ := h
    refine ⟨true, by rw [emitEvent_of_passes hpasses], fun _ => ?_, fun _ => rfl⟩
    exact ⟨loggerName, record, host₁, hpasses⟩
  · have hnone : ∀ loggerName record host₁, ¬ Passes id event loggerName record host host₁ :=
      fun loggerName record host₁ hpasses => h ⟨loggerName, record, host₁, hpasses⟩
    exact ⟨false, (emitEvent_of_not_passes frame_sameApp hnone).1, nofun, fun hex => absurd hex h⟩

/-- Capturing an event answers in any case. -/
theorem returns_emitEvent (id : BridgeId) (echo : Attempt (Host α) Unit) (event : Event) :
    Returns (emitEvent id echo event) := fun _ =>
  have ⟨captured, hcaptured, _⟩ := emitEvent_answer
  ⟨captured, hcaptured⟩

/-! ## Handing over -/

/-- A sink that creates no logger is not asked for a record. -/
theorem handOver_of_no_logger {name : String} {panic : Panic} {host₁ : Host α}
    (hlogger : resolveLogger id name host = (.error panic, host₁)) :
    handOver id echo record name host = (.error panic, host₁) :=
  bind_error hlogger

/-- A sink that creates no record is given none. -/
theorem handOver_of_no_record {name : String} {logger : Logger} {panic : Panic} {host₁ : Host α}
    (hlogger : resolveLogger id name host = (.ok logger, host₁))
    (hcreate : (host₁.bridge id).sink.createRecord host₁.trace logger = .error panic) :
    handOver id echo record name host =
      (.error panic, host₁.noted (.recordRequested id logger)) := by
  have hsink : callSink id (.recordRequested id logger) (·.createRecord · logger) host₁ =
      (.error panic, host₁.noted (.recordRequested id logger)) := by rw [callSink_apply, hcreate]
  exact (bind_ok hlogger).trans (bind_error hsink)

/-- A sink that is ready is given the record, and then does what it does. -/
theorem handOver_apply {name : String} {logger : Logger} {host₁ : Host α}
    (hlogger : resolveLogger id name host = (.ok logger, host₁))
    (hcreate : (host₁.bridge id).sink.createRecord host₁.trace logger = .ok ()) :
    let emission := record.emission logger host₁.clock (host₁.activeSpan?.map (·.context))
    let requested := host₁.noted (.recordRequested id logger)
    let answer := (host₁.bridge id).sink.emit requested.trace emission
    handOver id echo record name host =
      (do
        let () ← answer
        echo : Attempt (Host α) Unit) (requested.noted (.handed id emission answer)) := by
  have hsink : callSink id (.recordRequested id logger) (·.createRecord · logger) host₁ =
      (.ok (), host₁.noted (.recordRequested id logger)) := by rw [callSink_apply, hcreate]
  exact (bind_ok hlogger).trans (bind_ok hsink)

/-- A sink that is ready is given the record before anything else that it is given, and then goes on
if it does not panic. -/
theorem Ready.handOver_eq {name : String} {emission : Emission}
    (h : Ready id record name emission host) :
    ∃ (answer : Except Panic Unit) (host₂ : Host α),
      SameDepths host host₂ ∧ EvolvedBridges host host₂ ∧
      host₂.handovers = host.handovers ++ [(id, emission)] ∧
      ∀ echo : Attempt (Host α) Unit, handOver id echo record name host =
        (do
          let () ← answer
          echo : Attempt (Host α) Unit) host₂ := by
  obtain ⟨logger, host₁, hlogger, hcreate, rfl⟩ := h
  have hsame : SameHandovers host host₁ :=
    (resolveLogger_keeps frame_sameHandovers name).of_apply hlogger
  have hdepths : SameDepths host host₁ :=
    (resolveLogger_keeps frame_sameDepths name).of_apply hlogger
  have hevolved : EvolvedBridges host host₁ :=
    (resolveLogger_keeps frame_evolvedBridges name).of_apply hlogger
  refine ⟨_, (host₁.noted _).noted _, hdepths, hevolved, ?_,
    fun echo => handOver_apply hlogger hcreate⟩
  -- Of the marks that are left, only the last one is a record.
  rw [handovers_noted, handovers_noted, ← hsame]
  simp only [Happening.handover?, Option.toList_none, List.append_nil, Option.toList_some]

/-- A sink that is ready is given one record, if it hands over nothing on its own account. -/
theorem handOver_handovers_of_ready {name : String} {emission : Emission}
    (h : Ready id record name emission host)
    (hecho : ∀ host', SameDepths host host' → SameHandovers host' (echo host').2) :
    (handOver id echo record name host).2.handovers = host.handovers ++ [(id, emission)] := by
  obtain ⟨answer, host₂, hdepths, -, hgiven, hhanded⟩ := h.handOver_eq
  rw [hhanded, ← hgiven]
  -- What follows is at most the sink's own logging, which hands nothing over.
  cases answer with
  | ok _ => exact hecho host₂ hdepths
  | error panic => rfl

/-- A sink that is not ready is given nothing. -/
theorem handOver_of_not_ready {R : Host α → Host α → Prop} (hR : Frame R) {name : String}
    (h : ∀ emission, ¬ Ready id record name emission host) :
    R host (handOver id echo record name host).2 := by
  cases hlogger : resolveLogger id name host with
  | mk ended host₁ =>
    have hkept : R host host₁ := (resolveLogger_keeps hR name).of_apply hlogger
    cases ended with
    -- Either the sink has no logger, or it does not create a record.
    | error panic => rwa [handOver_of_no_logger hlogger]
    | ok logger =>
      cases hcreate : (host₁.bridge id).sink.createRecord host₁.trace logger with
      | ok _ => exact absurd ⟨logger, host₁, hlogger, hcreate, rfl⟩ (h _)
      | error panic =>
        rw [handOver_of_no_record hlogger hcreate]
        exact hR.trans _ _ _ hkept (hR.noted _ _ rfl)

/-- What emitting reports is no record. -/
theorem emitWith_handovers :
    (emitWith id echo record loggerName host).2.handovers =
      (handOver id echo record (normalizeName loggerName) host).2.handovers := by
  rw [emitWith, bind_apply, outcome_apply]
  cases (handOver id echo record (normalizeName loggerName) host).1 with
  | ok _ => rfl
  | error panic => exact report_keeps frame_sameHandovers _ _

/-! ## What a sink logs on its own while it emits -/

/-- Within a capture nothing is captured. -/
theorem captureWith_nested (h : host.here.depths.current logRecord ≠ 0) :
    captureWith id echo event host =
      (.ok false, ((host.counted logRecord).noted (.reported (.nestedCaptureSkipped
        (host.here.depths.current logRecord)))).uncounted logRecord) := by
  rw [captureWith, guarded_apply]
  simp only [Call.isOutermost, h, decide_false, Bool.false_eq_true, if_false]
  rfl

theorem returns_captureWith (id : BridgeId) (echo : Attempt (Host α) Unit) (event : Event) :
    Returns (captureWith id echo event) := by
  intro host
  rw [captureWith, guarded_apply]
  dsimp only
  split
  · exact returns_emitEvent id echo event _
  · exact ⟨false, rfl⟩

end Emit

/-- What the sink does after it has emitted does not panic. -/
theorem returns_echo (id : BridgeId) : Returns (echo (α := α) id) := by
  refine returns_get.bind fun host => ?_
  split
  · exact (returns_captureWith id _ _).bind fun captured _ => ⟨(), rfl⟩
  · exact returns_pure ()

/-- Within a capture, what the sink logs is not handed over. -/
theorem echo_sameHandovers (h : host.here.depths.current logRecord ≠ 0) :
    SameHandovers host (echo id host).2 := by
  have hget : (get : Attempt (Host α) (Host α)) host = (.ok host, host) := rfl
  rw [echo, bind_ok hget]
  cases (host.bridge id).sink.echo with
  | none => rfl
  | some logged =>
    have hnested : SameHandovers (host.counted logRecord) ((host.counted logRecord).noted
        (.reported (.nestedCaptureSkipped (host.here.depths.current logRecord)))) :=
      frame_sameHandovers.noted _ _ rfl
    simp only [bind_ok (captureWith_nested h)]
    exact (frame_sameHandovers.noted (.echoed id false) _ rfl).trans hnested

/-- Within a capture, one record is handed over for an event that is admitted, and none for any
other event. -/
theorem emitEvent_handovers (h : host.here.depths.current logRecord ≠ 0) :
    (∃ emission, Admits id event emission host ∧
      (emitEvent id (echo id) event host).2.handovers = host.handovers ++ [(id, emission)]) ∨
    ((∀ emission, ¬ Admits id event emission host) ∧
      SameHandovers host (emitEvent id (echo id) event host).2) := by
  by_cases hpasses : ∃ loggerName record host₁, Passes id event loggerName record host host₁
  · obtain ⟨loggerName, record, host₁, hpasses⟩ := hpasses
    have hbefore := hpasses.frame frame_sameHandovers
    have hdepths := hpasses.frame frame_sameDepths
    rw [emitEvent_of_passes hpasses]
    by_cases hready : ∃ emission, Ready id record (normalizeName loggerName) emission host₁
    · -- The sink logs within the capture, so its own events are not captured.
      obtain ⟨emission, hready⟩ := hready
      refine Or.inl ⟨emission, ⟨loggerName, record, host₁, hpasses, hready⟩, ?_⟩
      rw [← hbefore, emitWith_handovers]
      refine handOver_handovers_of_ready hready fun host' hsame => echo_sameHandovers ?_
      rw [hsame logRecord, hdepths logRecord]
      exact h
    · have hnone : ∀ emission, ¬ Ready id record (normalizeName loggerName) emission host₁ :=
        fun emission h => hready ⟨emission, h⟩
      refine Or.inr ⟨?_, ?_⟩
      · -- The event passes in one way only, and there the sink is not ready.
        rintro emission ⟨loggerName', record', host₁', hpasses', hready'⟩
        obtain ⟨rfl, rfl, rfl⟩ := hpasses.unique hpasses'
        exact hnone emission hready'
      · exact emitWith_handovers.trans
          ((handOver_of_not_ready frame_sameHandovers hnone).trans hbefore)
  · have hnone : ∀ loggerName record host₁, ¬ Passes id event loggerName record host host₁ :=
      fun loggerName record host₁ h => hpasses ⟨loggerName, record, host₁, h⟩
    refine Or.inr ⟨?_, (emitEvent_of_not_passes frame_sameHandovers hnone).2⟩
    rintro emission ⟨loggerName, record, host₁, h, -⟩
    exact hnone loggerName record host₁ h

end Telemetry.Bridge
