import Telemetry.Proofs.Mapper.Keys

/-!
# The exception of a record

The attributes of an exception are written early, and other data is written after them. Most of it
has keys of its own, but entries of the diagnostic context and of the logger context can be written
under whatever key the host gives them (`Event.verbatimWrites`), also under those of the exception.

* `Mapper.exception_overwritten`: such an entry replaces an attribute of the exception.
* `Mapper.exception_captured`: only such an entry does, be it in place of an attribute of the
  exception or of a message that the exception does not have. Otherwise the exception is in the
  record as it is.
-/

namespace Telemetry

open Attribute
open AttributeMap (lastWrite? lastWrite?_append lastWrite?_eq_none_iff)

namespace Event

variable {framework : Framework} {settings : CaptureSettings} {here : ThreadInfo} {event : Event}
  {key : String}

/-! ## What is not written under the keys of an exception -/

theorem lastWrite?_textWrite {other : String} {text : Option String} :
    lastWrite? (textWrite other text) key = if key = other then text.map .text else none := by
  rcases text with _ | text
  · simp [textWrite, AttributeMap.lastWrite?_nil]
  · exact AttributeMap.lastWrite?_singleton

/-- Texts in a namespace are not written under a key that does not begin with it. -/
theorem lastWrite?_textWrites_form {scope : String} (hscope : ¬ scope.toList <+: key.toList)
    (entries : List (String × String)) :
    lastWrite? (textWrites (KeyCache.form (some scope)) entries) key = none := by
  rw [lastWrite?_eq_none_iff, textWrites, List.map_map, List.mem_map]
  rintro ⟨entry, -, heq⟩
  exact KeyCache.qualify_ne hscope heq

theorem lastWrite?_messageWrites (hkey : key ∈ Key.ofExceptions) (message : Option Message) :
    lastWrite? (messageWrites framework settings message) key = none := by
  have hscope : ∀ key ∈ Key.ofExceptions, ¬ "log4j.map_message".toList <+: key.toList := by
    decide
  rcases message with _ | (s | message)
  · rfl
  · rfl
  · rw [messageWrites]
    split_ifs
    · exact lastWrite?_textWrites_form (hscope key hkey) _
    · rfl

/-- The diagnostic context is written under the keys of an exception only if it is verbatim. -/
theorem lastWrite?_contextWrites (hkey : key ∈ Key.ofExceptions)
    (entries : List (String × String)) :
    lastWrite? (textWrites (KeyCache.form framework.contextNamespace) entries) key =
      lastWrite? (if framework.contextNamespace = none then textWrites id entries else []) key := by
  have hscope : ∀ key ∈ Key.ofExceptions, ∀ scope, framework.contextNamespace = some scope →
      ¬ scope.toList <+: key.toList := by
    cases framework <;> simp [Framework.contextNamespace] <;> decide
  rcases hnamespace : framework.contextNamespace with _ | scope
  · rfl
  · exact lastWrite?_textWrites_form (hscope key hkey scope hnamespace) entries

theorem lastWrite?_threadWrites (hkey : key ∈ Key.ofExceptions) (thread : ThreadInfo) :
    lastWrite? (threadWrites thread) key = none := by
  have hdisjoint : ∀ key ∈ Key.ofExceptions, key ∉ Key.ofThreads := by decide
  exact lastWrite?_eq_none (fun _ => key_of_mem_threadWrites) (hdisjoint key hkey)

theorem lastWrite?_callerWrites (hkey : key ∈ Key.ofExceptions) (frame : CallerFrame) :
    lastWrite? (callerWrites frame) key = none := by
  have hdisjoint : ∀ key ∈ Key.ofExceptions, key ∉ Key.ofCallers := by decide
  exact lastWrite?_eq_none (fun _ => key_of_mem_callerWrites) (hdisjoint key hkey)

theorem lastWrite?_markerWrites (framework : Framework) (hkey : key ∈ Key.ofExceptions)
    (marker : String) :
    lastWrite? (markerWrites framework marker) key = none := by
  have hdisjoint : key ∉ framework.markerKey.toList := by
    rintro hmarker
    rw [Option.mem_toList] at hmarker
    cases framework <;> cases hmarker <;> revert hkey <;> decide
  exact lastWrite?_eq_none
    (fun _ h => Option.mem_toList.mpr (key_of_mem_markerWrites h)) hdisjoint

/-- An answer adds no write to a key under which it is not written, wanted or not. -/
theorem lastWrite?_answerWrites {α : Type} (wanted : Bool) (answer : Option α)
    {writes : α → List (String × Value)} (h : ∀ a, lastWrite? (writes a) key = none) :
    lastWrite? (if wanted then answer.elim [] writes else []) key = none := by
  rcases answer with _ | a
  · rw [Option.elim_none, ite_self]
    rfl
  · split_ifs
    · exact h a
    · rfl

/-- Under the keys of an exception an event writes its exception, and later what it writes
verbatim. -/
theorem lastWrite?_blocks (hkey : key ∈ Key.ofExceptions) {throwable : Throwable}
    (hthrowable : answer event.throwable = some throwable) :
    lastWrite? (event.blocks framework settings here).flatten key =
      (lastWrite? (event.verbatimWrites framework settings) key).or
        (lastWrite? (throwableWrites throwable) key) := by
  have hthread := lastWrite?_answerWrites settings.thread (some ((answer event.thread).getD here))
    (lastWrite?_threadWrites hkey)
  have hcaller := lastWrite?_answerWrites settings.code (answer event.caller)
    (lastWrite?_callerWrites hkey)
  have hmarker := lastWrite?_answerWrites settings.marker (answer event.marker)
    (lastWrite?_markerWrites framework hkey)
  rw [Option.elim_some] at hthread
  -- The other blocks write nothing under the key, and what is left is in the order of the blocks.
  simp only [blocks, verbatimWrites, List.flatten_cons, List.flatten_nil, List.append_nil,
    lastWrite?_append, lastWrite?_messageWrites hkey, lastWrite?_contextWrites hkey, hthread,
    hcaller, hmarker, hthrowable, Option.elim_some, Option.or_none, Option.or_assoc]

theorem lastWrite?_throwableWrites (throwable : Throwable) :
    lastWrite? (throwableWrites throwable) Key.exceptionType = some (.text throwable.typeName) ∧
      lastWrite? (throwableWrites throwable) Key.exceptionStacktrace =
        some (.text throwable.stackTrace) ∧
      lastWrite? (throwableWrites throwable) Key.exceptionMessage =
        throwable.message.map .text := by
  simp [throwableWrites, lastWrite?_append, lastWrite?_textWrite, Key.exceptionType,
    Key.exceptionStacktrace, Key.exceptionMessage]

end Event

namespace Mapper

variable {framework : Framework} {settings : CaptureSettings} {event : Event}

/-- An event with an exception, and with a diagnostic context that has the key of its type. -/
def forged : Event where
  framework := .log4j2
  throwable := .ok (some ⟨"IOError", none, "IOError at Disk"⟩)
  context := .ok (some (.ofList [("exception.type", "forged")]))

/-- The exception of an event is not always in its record as it is. -/
theorem exception_overwritten :
    ¬ ∀ (framework : Framework) (settings : CaptureSettings) (here : ThreadInfo) (event : Event)
        (throwable : Throwable),
      (∀ panic, ¬ event.Raises panic) → event.throwable = .ok (some throwable) →
        ∃ record m', Mapper.map here event (ofSettings framework settings) = (.ok record, m') ∧
          record.attributes.get? Key.exceptionType = some (.text throwable.typeName) ∧
          record.attributes.get? Key.exceptionStacktrace = some (.text throwable.stackTrace) ∧
          record.attributes.get? Key.exceptionMessage = throwable.message.map .text := by
  intro h
  have hevent : ∀ panic, ¬ forged.Raises panic := by
    simp [Event.Raises, forged]
  obtain ⟨record, m', hmap, htype, -⟩ := h .log4j2 { contextKeys := ["*"] } {} forged _ hevent rfl
  have hforged : (Mapper.map {} forged (ofSettings .log4j2 { contextKeys := ["*"] })).1 =
      .ok { attributes := ⟨[("exception.type", .text "forged"),
        ("exception.stacktrace", .text "IOError at Disk")]⟩ } := rfl
  -- The record is known, and its type is the one from the context.
  rw [hmap] at hforged
  cases hforged
  simp [AttributeMap.get?, Key.exceptionType] at htype

/-- The exception of an event that does not panic is in its record, whatever the mapper has done
before. Only a later write under a key that the host chooses freely stands in its place: its type
and its stack trace can be replaced, and its message replaced or invented. -/
theorem exception_captured (uses : List Use) (here : ThreadInfo)
    (hevent : ∀ panic, ¬ event.Raises panic) {throwable : Throwable}
    (hthrowable : event.throwable = .ok (some throwable)) :
    let verbatim := lastWrite? (event.verbatimWrites framework settings)
    ∃ record m', Mapper.map here event ((ofSettings framework settings).used uses) =
        (.ok record, m') ∧
      record.attributes.get? Key.exceptionType =
        (verbatim Key.exceptionType).or (some (.text throwable.typeName)) ∧
      record.attributes.get? Key.exceptionStacktrace =
        (verbatim Key.exceptionStacktrace).or (some (.text throwable.stackTrace)) ∧
      record.attributes.get? Key.exceptionMessage =
        (verbatim Key.exceptionMessage).or (throwable.message.map .text) := by
  obtain ⟨record, m', hmap, -, hattributes⟩ :=
    map_eq_writes (faithful_ofSettings.used uses) here (Event.complete_of_not_raises hevent)
  have hget : ∀ key ∈ Key.ofExceptions, record.attributes.get? key =
      (lastWrite? (event.verbatimWrites framework settings) key).or
        (lastWrite? (Event.throwableWrites throwable) key) := by
    intro key hkey
    rw [hattributes, AttributeMap.get?_insertMany]
    exact Event.lastWrite?_blocks hkey (congrArg Event.answer hthrowable)
  obtain ⟨htype, hstack, hmessage⟩ := Event.lastWrite?_throwableWrites throwable
  refine ⟨record, m', hmap, ?_, ?_, ?_⟩
  · rw [hget _ (by decide), htype]
  · rw [hget _ (by decide), hstack]
  · rw [hget _ (by decide), hmessage]

theorem forged_captured :
    ∃ record m', Mapper.map {} forged (ofSettings .log4j2 { contextKeys := ["*"] }) =
        (.ok record, m') ∧
      record.attributes.get? Key.exceptionType = some (.text "forged") ∧
      record.attributes.get? Key.exceptionStacktrace = some (.text "IOError at Disk") ∧
      record.attributes.get? Key.exceptionMessage = none := by
  have hevent : ∀ panic, ¬ forged.Raises panic := by
    simp [Event.Raises, forged]
  exact exception_captured [] {} hevent rfl

end Mapper

end Telemetry
