import Telemetry.Proofs.Bridge.Failures
import Telemetry.Proofs.Undisturbed

/-!
# Which panics are reported

Instrumentations stop the panics of events, sinks and spans. Each call stops at most one
(`Hook.failure?`, `Wrapper.failure?`), and it logs one warning for it, whose reason is the message
of the panic, unless the panic is one of a check: the check of a severity stops it and says nothing.

Main statement: a call logs a warning for the panic that it stops, if that is not one of a check,
and no other warning (`failures_reported_but_checks`).
-/

namespace Telemetry

open Attempt Host Bridge Statement

/-! ## Warnings -/

/-- The reason that a warning gives, if a happening is one. -/
def Happening.warning? : Happening → Option (Option Diagnostic.Field)
  | reported diagnostic =>
    if diagnostic.gravity = .warn then some (diagnostic.fields.lookup "reason") else none
  | _ => none

/-- The warning that a failure deserves. -/
def Failure.warning (failure : Failure) : Option Diagnostic.Field :=
  some (.text failure.panic.message)

/-- Whether it is a check of a severity that failed. -/
def Failure.isCheck : Failure → Bool
  | check _ => true
  | accessor _ | emission _ | span _ => false

variable {α β : Type} {id : BridgeId} {event : Event} {host : Host α} {record : Record}
  {loggerName : Option String} {severity : Option Severity}

namespace Host

/-- The warnings so far, in order. -/
def warnings (host : Host α) : List (Option Diagnostic.Field) := host.seen Happening.warning?

/-- What was logged between two hosts is one warning for the failure, or none without a failure. -/
def Logs (failure? : Option Failure) (host host' : Host α) : Prop :=
  host'.warnings = host.warnings ++ (failure?.map Failure.warning).toList

theorem logs_none {host' : Host α} (h : host'.warnings = host.warnings) : Logs none host host' := by
  rw [Logs, h]
  exact (List.append_nil _).symm

end Host

theorem overlooks_warning : Overlooks Happening.warning? where
  loggerRequested _ _ := rfl
  recordRequested _ _ := rfl
  handed _ _ _ := rfl
  echoed _ _ := rfl
  skipped _ := rfl

namespace Bridge

/-- A check logs no warning, whether it fails or not. -/
theorem accepts_warnings : (accepts id loggerName severity host).2.warnings = host.warnings := by
  cases severity with
  | none => rfl
  | some severity =>
    have hresolved : (resolveLogger id (normalizeName loggerName) host).2.warnings =
        host.warnings := resolveLogger_seen overlooks_warning
    rw [accepts_some_apply]
    cases hlogger : resolveLogger id (normalizeName loggerName) host with
    | mk ended host₁ =>
      rw [hlogger] at hresolved
      cases ended with
      | ok logger => exact (seen_noted_of_none rfl).trans hresolved
      | error panic => exact hresolved

theorem asked_warnings (id : BridgeId) (event : Event) (host : Host α) :
    (asked id event host).warnings = host.warnings := by
  rw [asked]
  split
  · exact accepts_warnings
  · rfl

/-- What is reported of the failure of a capture is the warning that it deserves, if it is not one
of the check. -/
theorem captureFailure?_seen :
    (captureFailure? id event host).bind (Failure.seen Happening.warning? event) =
      ((captureFailure? id event host).filter (!·.isCheck)).map Failure.warning := by
  rw [captureFailure?]
  cases hlevel : event.level with
  | error panic => rfl
  | ok level =>
    cases hname : event.loggerName with
    | error panic => rfl
    | ok loggerName =>
      simp only
      split
      · rfl
      · split
        · split
          next record host₁ _ =>
            cases handOverFailure? id record (normalizeName loggerName) host₁ with
            | none => rfl
            | some panic => simp only [Option.map_some, Option.bind_some, Failure.seen,
                Failure.report?, hname]; rfl
          next => rfl
        · rfl

/-! ## Captures -/

/-- The panic that a call which captures an event stops. A call within another one captures nothing.
-/
def callFailure? (id : BridgeId) (event : Event) (host : Host α) : Option Failure :=
  if host.here.depths.current logRecord = 0 then
    captureFailure? id event (host.counted logRecord)
  else none

section Capture

variable {echo : Attempt (Host α) Unit} (hecho : Returns echo)
  (hquiet : ∀ host, host.here.depths.current logRecord ≠ 0 → (echo host).2.warnings = host.warnings)
include hecho hquiet

theorem emitEvent_warnings (h : host.here.depths.current logRecord ≠ 0) :
    Logs ((captureFailure? id event host).filter (!·.isCheck)) host
      (emitEvent id echo event host).2 := by
  rw [Logs, ← captureFailure?_seen, ← asked_warnings id event host]
  refine emitEvent_seen overlooks_warning hecho fun host' hdepths => hquiet host' ?_
  rw [hdepths logRecord]
  exact h

theorem captureWith_logs :
    Logs ((callFailure? id event host).filter (!·.isCheck)) host
      (captureWith id echo event host).2 := by
  rw [Logs, warnings, captureWith_seen overlooks_warning, callFailure?]
  split
  next => exact emitEvent_warnings hecho hquiet current_counted_ne_zero
  next => exact (List.append_nil _).symm

end Capture

/-- What a sink does after it has emitted logs no warning within a capture. -/
theorem echo_quiet (host : Host α) (h : host.here.depths.current logRecord ≠ 0) :
    (echo id host).2.warnings = host.warnings :=
  echo_seen_of_nested overlooks_warning h

theorem capture_logs :
    Logs ((callFailure? id event host).filter (!·.isCheck)) host (capture id event host).2 :=
  captureWith_logs (returns_echo id) echo_quiet

/-- Before its body an intercepted call logs what a capture logs. -/
theorem entered_logs :
    Logs ((callFailure? id event host).filter (!·.isCheck)) host (entered id event host) := by
  rw [entered, opened, callFailure?]
  split
  · rw [discard_snd]
    exact emitEvent_warnings (returns_echo id) echo_quiet current_counted_ne_zero
  · exact logs_none rfl

/-! ## Emissions -/

/-- The panic that is stopped while a sink does what it does after it has emitted. -/
def echoFailure? (id : BridgeId) (host : Host α) : Option Failure :=
  (host.bridge id).sink.echo.bind fun event => callFailure? id (event host.here.info) host

theorem echo_logs (id : BridgeId) (host : Host α) :
    Logs ((echoFailure? id host).filter (!·.isCheck)) host (echo id host).2 := by
  have hget : (get : Attempt (Host α) (Host α)) host = (.ok host, host) := rfl
  rw [echo, bind_ok hget, echoFailure?]
  cases (host.bridge id).sink.echo with
  | none => exact logs_none rfl
  | some logged =>
    -- The sink logs an event in turn, and this capture is one like any other.
    let captured := captureWith id (pure ()) (logged host.here.info) host
    obtain ⟨answer, hanswer⟩ := returns_captureWith id (pure ()) (logged host.here.info) host
    have hcaptured : captureWith id (pure ()) (logged host.here.info) host =
        (.ok answer, captured.2) := Prod.ext hanswer rfl
    have hlogs : Logs ((callFailure? id (logged host.here.info) host).filter (!·.isCheck)) host
        captured.2 := captureWith_logs (returns_pure ()) fun _ _ => rfl
    simp only [bind_ok hcaptured]
    exact (seen_noted_of_none rfl).trans hlogs

/-- The panic that is stopped while a record is emitted. -/
def emitFailure? (id : BridgeId) (record : Record) (loggerName : Option String) (host : Host α) :
    Option Failure :=
  let name := normalizeName loggerName
  match handOverFailure? id record name host with
  | some panic => some (.emission panic)
  | none => echoFailure? id (handOver id (pure ()) record name host).2

theorem emit_logs :
    Logs ((emitFailure? id record loggerName host).filter (!·.isCheck)) host
      (emit id record loggerName host).2 := by
  rw [Logs, emit, warnings, emitWith_seen overlooks_warning (returns_echo id), emitFailure?]
  cases handOverFailure? id record (normalizeName loggerName) host with
  | some panic => rfl
  | none =>
    -- Handing the record over leaves no warning, so what counts is what the sink does next.
    let handed := handOver id (pure ()) record (normalizeName loggerName) host
    have hkept : handed.2.warnings = host.warnings := (handOver_spec overlooks_warning).2
    rw [← hkept]
    exact echo_logs id handed.2

end Bridge

/-! ## Statements that run -/

/-- The panic in which a span ends a request, if it does. -/
def Span.Reply.panic? : Reply → Option Panic
  | .sets | .ignores => none
  | .panics panic => some panic

theorem Span.Reply.raised?_outcome {reply : Reply} : raised? reply.outcome = reply.panic? := by
  cases reply <;> rfl

namespace Statement

/-- The panic that attaching rendered parameters to the active span ends in. -/
def attachFailure? (rendered : String) (host : Host α) : Option Panic :=
  match host.here.spans with
  | span :: _ =>
    if span.context.isValid then (span.reply Attribute.Key.statementValues rendered).panic?
    else none
  | [] => none

/-- The panic that is stopped when a statement runs. -/
def executeFailure? (id : TableId) (statement : StatementId) (host : Host α) : Option Panic :=
  match ((host.table id).remove statement).1 with
  | some parameters =>
    if parameters.isEmpty then none else attachFailure? parameters.render host
  | none => none

/-- Attaching parameters ends in the panic of the active span, and nothing of it is in the trace. -/
theorem attach_spec {rendered : String} :
    raised? (attach rendered host).1 = attachFailure? rendered host ∧
      (attach rendered host).2.trace = host.trace := by
  rw [attach, attachFailure?]
  cases host.here.spans with
  | nil => exact ⟨rfl, rfl⟩
  | cons span outer =>
    dsimp only
    split
    · rw [← Span.Reply.raised?_outcome, Span.setAttribute]
      refine ⟨?_, rfl⟩
      cases (span.reply Attribute.Key.statementValues rendered).outcome <;> rfl
    · exact ⟨rfl, rfl⟩

theorem settle_logs (statement : StatementId) (parameters : Parameters) (host : Host α) :
    Logs ((if parameters.isEmpty then none else attachFailure? parameters.render host).map .span)
      host (settle statement (some parameters) host).2 := by
  rw [settle]
  by_cases hempty : parameters.isEmpty
  · rw [if_pos hempty, if_pos hempty]
    exact logs_none rfl
  · obtain ⟨hended, htrace⟩ :
        raised? (attach parameters.render host).1 = attachFailure? parameters.render host ∧
          (attach parameters.render host).2.trace = host.trace := attach_spec
    rw [if_neg hempty, if_neg hempty, ← hended, bind_apply, outcome_apply]
    cases hrun : attach parameters.render host with
    | mk ended host₁ =>
      rw [hrun] at htrace
      have hsame : host₁.warnings = host.warnings := congrArg (List.filterMap _) htrace
      cases ended with
      | ok attached => exact logs_none hsame
      | error panic =>
        -- The panic of the span is stopped here, and the one warning is for it.
        exact seen_noted.trans (congrArg (· ++ _) hsame)

theorem execute_logs {id : TableId} {statement : StatementId} :
    Logs ((executeFailure? id statement host).map .span) host (execute id statement host).2 := by
  let found := ((host.table id).remove statement).1
  have hfound : focus (tablePlace id) (modifyGet (·.remove statement)) host =
      (.ok found, (tablePlace id).set ((host.table id).remove statement).2 host) := rfl
  rw [execute_eq, bind_ok hfound, executeFailure?]
  show Logs ((match found with | some _ => _ | none => none).map _) _ _
  cases found with
  | none => exact logs_none rfl
  | some parameters => exact settle_logs statement parameters ((tablePlace id).set _ host)

/-- Binding a parameter logs no warning. -/
theorem bound_logs (binding : Binding) : Logs none host (binding.bound host) := by
  refine logs_none ?_
  rw [Binding.bound, bound, opened]
  split
  · rw [record]
    split
    · exact seen_noted_of_none rfl
    · rfl
  · rfl

end Statement

/-! ## Calls -/

/-- The panic that a hook stops. -/
def Hook.failure? : Hook β → Host α → Option Failure
  | capture id event, host => callFailure? id event host
  | emit id record loggerName, host => emitFailure? id record loggerName host
  | accepts id loggerName severity, host => (checkFailure? id loggerName severity host).map .check
  | bind _, _ => none
  | execute id statement, host => (executeFailure? id statement host).map .span

/-- The panic that a wrapper stops before its body. -/
def Wrapper.failure? : Wrapper → Host α → Option Failure
  | intercept interception, host => callFailure? interception.id interception.event host
  | bindWith _, _ => none

theorem Hook.logs (hook : Hook β) (host : Host α) :
    Logs ((hook.failure? host).filter (!·.isCheck)) host (hook.call host).2 := by
  cases hook with
  | capture id event => exact capture_logs
  | emit id record loggerName => exact emit_logs
  | accepts id loggerName severity =>
    -- Whatever stops the check, it deserves a warning and gets none.
    have hnone : ((checkFailure? id loggerName severity host).map Failure.check).filter
        (!·.isCheck) = none := by
      cases checkFailure? id loggerName severity host <;> rfl
    rw [failure?, hnone]
    exact logs_none accepts_warnings
  | bind binding =>
    show Logs none host (bindWith _ _ _ _ (pure ()) host).2
    rw [bindWith_apply]
    exact bound_logs binding
  | execute id statement =>
    have hall : ((executeFailure? id statement host).map Failure.span).filter (!·.isCheck) =
        (executeFailure? id statement host).map Failure.span := by
      cases executeFailure? id statement host <;> rfl
    rw [failure?, hall]
    exact execute_logs

theorem Wrapper.enter_logs (wrapper : Wrapper) (host : Host α) :
    Logs ((wrapper.failure? host).filter (!·.isCheck)) host (wrapper.enter host) := by
  cases wrapper with
  | intercept interception => exact entered_logs
  | bindWith binding => exact bound_logs binding

/-- If every failure but that of a check is reported, then all are just if it is not a check that
failed. -/
theorem logs_all_iff {failure? : Option Failure} {host' : Host α}
    (h : Logs (failure?.filter (!·.isCheck)) host host') :
    Logs failure? host host' ↔ ∀ panic, failure? ≠ some (.check panic) := by
  match failure? with
  | none => exact ⟨nofun, fun _ => h⟩
  | some (.check panic) =>
    refine ⟨fun hall => ?_, fun hne => absurd rfl (hne panic)⟩
    -- The failed check would need a warning, and there is none.
    have hlength := congrArg List.length (h.symm.trans hall)
    simp [Failure.isCheck] at hlength
  | some (.accessor panic) => exact ⟨nofun, fun _ => h⟩
  | some (.emission panic) => exact ⟨nofun, fun _ => h⟩
  | some (.span panic) => exact ⟨nofun, fun _ => h⟩

/-- Each call stops at most one panic, and logs one warning for it, with the message of the panic as
its reason, if it is not the panic of a check; otherwise it logs none. So every panic that a call
stops is reported just if it is not one of a check. For a wrapper this holds of what it does before
its body, and afterwards it logs nothing more. What is stopped while an event is captured is a panic
of the event's accessors or of the sink. -/
theorem failures_reported_but_checks :
    (∀ (hook : Hook β) (host : Host α),
      Logs ((hook.failure? host).filter (!·.isCheck)) host (hook.call host).2 ∧
      (Logs (hook.failure? host) host (hook.call host).2 ↔
        ∀ panic, hook.failure? host ≠ some (.check panic))) ∧
    (∀ (wrapper : Wrapper) (body : Attempt (Host α) β) (host : Host α),
      Logs ((wrapper.failure? host).filter (!·.isCheck)) host (wrapper.enter host) ∧
      (Logs (wrapper.failure? host) host (wrapper.enter host) ↔
        ∀ panic, wrapper.failure? host ≠ some (.check panic)) ∧
      (wrapper.within body host).2.warnings = (body (wrapper.enter host)).2.warnings) ∧
    (∀ id event (host : Host α) failure, captureFailure? id event host = some failure →
      failure.RaisedBy event (host.bridge id).sink) := by
  refine ⟨fun hook host => ?_, fun wrapper body host => ?_, fun _ _ _ _ => captureFailure?_raised⟩
  · exact ⟨hook.logs host, logs_all_iff (hook.logs host)⟩
  · refine ⟨wrapper.enter_logs host, logs_all_iff (wrapper.enter_logs host), ?_⟩
    rw [wrapper.within_apply]
    rfl

/-- A host whose sink panics when it is asked for a severity. -/
def skittish : Host Unit :=
  { idle () with
    bridge := fun _ =>
      { mapper := fun framework => .ofSettings framework (.ofDraft {})
        sink := { accepts := fun _ _ _ _ => .error (.text "sink enabled failed") } } }

/-- The panic of a check is stopped, and no warning says so. -/
theorem check_unreported :
    (Hook.accepts 0 (some "app") (some ⟨.info, 0⟩)).failure? skittish =
      some (.check (.text "sink enabled failed")) ∧
    ((Hook.accepts 0 (some "app") (some ⟨.info, 0⟩)).call skittish).1 = .ok false ∧
    ((Hook.accepts 0 (some "app") (some ⟨.info, 0⟩)).call skittish).2.warnings = [] ∧
    ¬ Logs ((Hook.accepts 0 (some "app") (some ⟨.info, 0⟩)).failure? skittish) skittish
      ((Hook.accepts 0 (some "app") (some ⟨.info, 0⟩)).call skittish).2 := by
  have hfailure : (Hook.accepts 0 (some "app") (some ⟨.info, 0⟩)).failure? skittish =
      some (.check (.text "sink enabled failed")) := rfl
  have hwarnings : ((Hook.accepts 0 (some "app") (some ⟨.info, 0⟩)).call skittish).2.warnings =
      [] := accepts_warnings
  refine ⟨hfailure, rfl, hwarnings, fun hlogs => ?_⟩
  rw [Logs, hfailure, hwarnings] at hlogs
  cases hlogs

end Telemetry
