import Telemetry.Proofs.Mapper.Agreement

/-!
# What settings let through

A mapper shows in a record only what its settings let through. Without settings only the exception
is captured (`Mapper.map_off`).

Main statement: mapping events that agree on what the settings let through ends in the same record
or in the same panic, and without settings a record has no attributes but those of the exception
(`Mapper.gated_data_unseen`).
-/

namespace Telemetry.Mapper

open Attempt Attribute

/-! ## Without settings -/

section Off

variable {m m' : Mapper} {attributes attributes' : AttributeMap}

/-- An accessor that is wanted has answered if mapping goes on. -/
theorem captureAnswer_eq_ok {α : Type} {accessor : Except Panic (Option α)}
    {capture : α → AttributeMap → Attempt Mapper AttributeMap}
    (h : captureAnswer true accessor capture attributes m = (.ok attributes', m')) :
    ∃ answer, accessor = .ok answer ∧
      captureSome capture answer attributes m = (.ok attributes', m') := by
  rw [captureAnswer_wanted] at h
  exact liftM_bind_eq_ok_iff.mp h

theorem captureMessage_off (hm : m.settings = {}) (message : Option Message) :
    ∃ body, captureMessage message m = (.ok (body, .empty), m) := by
  match message with
  | none => exact ⟨_, rfl⟩
  | some (.text s) => exact ⟨_, rfl⟩
  | some (.map message) =>
    have hnothing : captureMapMessage message .empty m = (.ok .empty, m) := by
      rw [captureMapMessage, bind_ok get_apply, hm]
      rfl
    exact ⟨_, bind_ok hnothing⟩

theorem captureCommon_off (hm : m.settings = {}) {here : ThreadInfo} {event : Event}
    (h : captureCommon here event attributes m = (.ok attributes', m')) :
    attributes' = attributes ∨
      ∃ throwable, attributes' = captureThrowable throwable attributes := by
  rw [captureCommon, bind_ok get_apply] at h
  -- What remains of the accessors is the exception and the diagnostic context.
  simp only [hm, captureAnswer_unwanted, bind_pure] at h
  obtain ⟨captured, m₁, hthrowable, hcontext⟩ := bind_eq_ok_iff.mp h
  obtain ⟨throwable, -, hthrowable⟩ := captureAnswer_eq_ok hthrowable
  obtain ⟨table, -, htable⟩ := captureAnswer_eq_ok hcontext
  -- Nothing is wanted of the diagnostic context, so only the exception adds to the attributes.
  have hsettings : m₁.settings = {} := by
    cases throwable <;> cases hthrowable <;> exact hm
  have hnothing : wantedEntries {} table = [] := by
    rw [wantedEntries, if_neg (by decide), List.filterMap_nil]
  rw [captureSome_captureContext, hsettings, hnothing] at htable
  cases htable
  cases throwable with
  | none => cases hthrowable; exact Or.inl rfl
  | some throwable => cases hthrowable; exact Or.inr ⟨throwable, rfl⟩

/-- Without settings, the attributes of a record are those of its exception. -/
theorem map_off (hm : m.settings = {}) {here : ThreadInfo} {event : Event} {record : Record}
    (h : map here event m = (.ok record, m')) :
    record.attributes = .empty ∨
      ∃ throwable, record.attributes = captureThrowable throwable .empty := by
  obtain ⟨message, body, attributes, attributes', m₁, level, timestamp, -, hbody, hcommon, -, -,
    rfl⟩ := map_eq_ok h
  obtain ⟨body', hbody'⟩ := captureMessage_off hm message
  obtain ⟨⟨rfl, rfl⟩, rfl⟩ : (body = body' ∧ attributes = .empty) ∧ m₁ = m := by
    simpa using hbody.symm.trans hbody'
  exact captureCommon_off hm hcommon

/-- An exception has no keys but its three. -/
theorem keys_captureThrowable (throwable : Throwable) :
    (captureThrowable throwable .empty).toList.map Prod.fst ⊆
      [Key.exceptionType, Key.exceptionMessage, Key.exceptionStacktrace] := by
  obtain ⟨typeName, message, stackTrace⟩ := throwable
  cases message with
  | none =>
    -- The keys do not depend on the texts, so they are computed.
    have hkeys : (captureThrowable ⟨typeName, none, stackTrace⟩ .empty).toList.map Prod.fst =
        [Key.exceptionType, Key.exceptionStacktrace] := rfl
    rw [hkeys]
    decide
  | some message =>
    have hkeys : (captureThrowable ⟨typeName, some message, stackTrace⟩ .empty).toList.map
        Prod.fst = [Key.exceptionType, Key.exceptionMessage, Key.exceptionStacktrace] := rfl
    rw [hkeys]
    exact List.Subset.refl _

end Off

/-! ## Noninterference -/

/-- Being the same mapper is a relation that mapping keeps. -/
theorem steady_eq {framework : Framework} {settings : CaptureSettings} :
    Steady framework settings (fun m m' => m = m' ∧ m.Serves framework settings) where
  serves := by
    rintro m _ ⟨rfl, hm⟩
    exact ⟨hm, hm⟩
  contextKey := by
    rintro raw m _ ⟨rfl, hm⟩
    exact ⟨rfl, rfl, hm⟩
  mapMessageKey := by
    rintro raw m _ ⟨rfl, hm⟩
    exact ⟨rfl, rfl, hm⟩

/-- Whatever a mapper remembers, it maps two events that agree on what its settings let through in
the same way: to the same record, or ending in the same panic, and it remembers the same afterwards.
Without settings a record has no attributes but those of the exception. -/
theorem gated_data_unseen (here : ThreadInfo) (m : Mapper) :
    (∀ event event', event.AgreeOn m.framework m.settings event' →
      map here event m = map here event' m) ∧
    (m.settings = {} → ∀ event record m', map here event m = (.ok record, m') →
      record.attributes.toList.map Prod.fst ⊆
        [Key.exceptionType, Key.exceptionMessage, Key.exceptionStacktrace]) := by
  refine ⟨fun event event' h => ?_, fun hm event record m' h => ?_⟩
  · -- Two runs of one mapper start from the same state, and end in the same state.
    have hserves : m.Serves m.framework m.settings := ⟨rfl, rfl⟩
    have hsame : Simulates _ (map here event) (map here event') := steady_eq.map h
    obtain ⟨hended, hstate, -⟩ := hsame ⟨rfl, hserves⟩
    exact Prod.ext hended hstate
  · obtain hempty | ⟨throwable, hthrowable⟩ := map_off hm h
    · rw [hempty]
      exact List.nil_subset _
    · rw [hthrowable]
      exact keys_captureThrowable throwable

/-- An event of which only the message, one key of the context and the level are let through by
`selective`. -/
def modest : Event where
  framework := .log4j1
  level := .ok (some ⟨"WARN", 30000⟩)
  message := .ok (some (.map (({} : MapMessage).insert MapMessage.textKey "disk full")))
  throwable := .ok (some ⟨"IOError", none, "IOError at Disk"⟩)
  context := .ok (some (.ofList [("user", "ada"), ("token", "secret")]))
  marker := .ok (some "AUDIT")

/-- The same event to `selective`, with other data wherever it does not look, and with accessors
that panic. -/
def leaky : Event where
  framework := .log4j1
  loggerName := .error (.text "logger unavailable")
  level := modest.level
  message := .ok (some (.map ((({} : MapMessage).insert MapMessage.textKey "disk full").insert
    "password" "hunter2")))
  throwable := modest.throwable
  thread := .error (.text "thread unavailable")
  context := .ok (some (.ofList [("user", "ada"), ("session", "42")]))
  marker := .ok none
  caller := .error .unreadable
  properties := .error (.text "properties unavailable")

/-- A mapper that captures one key of the context and, in a framework without markers, markers. -/
def selective : Mapper := ofSettings .log4j1 { contextKeys := ["user"], marker := true }

theorem leaky_unseen :
    modest.AgreeOn selective.framework selective.settings leaky ∧
    map {} modest selective = map {} leaky selective ∧
    (∃ record m', map {} leaky (ofSettings .logback {}) = (.ok record, m') ∧
      record.attributes.toList.map Prod.fst ⊆
        [Key.exceptionType, Key.exceptionMessage, Key.exceptionStacktrace]) := by
  have hagree : modest.AgreeOn selective.framework selective.settings leaky := {
    message := .answer (.some ⟨rfl, fun _ => by
      simp [MapMessage.get?, MapMessage.insert, MapMessage.textKey, Std.TreeMap.getElem_insert]⟩)
    throwable := rfl
    context := .answer (by
      intro key hkey
      obtain rfl : key = "user" := by simpa [selective, ofSettings] using hkey
      simp [ContextTable.ofList, ContextTable.ofMap, Std.TreeMap.getElem?_insert])
    thread := nofun
    caller := nofun
    marker := fun _ => .answer nofun
    properties := nofun
    level := rfl
    timestamp := rfl }
  exact ⟨hagree, (gated_data_unseen {} selective).1 _ _ hagree,
    _, _, rfl, (gated_data_unseen {} (ofSettings .logback {})).2 rfl leaky _ _ rfl⟩

end Telemetry.Mapper
