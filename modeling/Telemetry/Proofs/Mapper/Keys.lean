import Telemetry.Proofs.Attribute.Order
import Telemetry.Proofs.Mapper.Writes

/-!
# The keys of what an event writes

Most of what an event writes has keys of its own: those that are written by name, and those that are
formed in a namespace. Only entries of the diagnostic context and of the logger context can be
written under whatever key the host gives them.

* `KeyCache.Within`: a key lies in a namespace.
* `Event.verbatimWrites`: the writes under keys that the host chooses freely.
* `Event.key_of_mem_tail`: the key of each write but those of the message.
-/

namespace Telemetry

open Attribute
open AttributeMap (Consistent lastWrite? lastWrite?_eq_none_iff lastWrite?_congr)

namespace Attribute.Key

/-- The keys of the attributes of an exception. -/
def ofExceptions : List String := [exceptionType, exceptionMessage, exceptionStacktrace]

/-- The keys of the attributes of a thread. -/
def ofThreads : List String := [threadName, threadId]

/-- The keys of the attributes of a call site. -/
def ofCallers : List String := [codeFilepath, codeNamespace, codeFunction, codeLine]

end Attribute.Key

/-! ## Namespaces -/

namespace KeyCache

variable {scope raw key : String}

/-- A key lies in a namespace. -/
def Within (scope key : String) : Prop := (scope ++ ".").toList <+: key.toList

instance (scope key : String) : Decidable (Within scope key) :=
  inferInstanceAs (Decidable (_ <+: _))

/-- The keys in a namespace are those that are formed in it. -/
theorem within_iff : Within scope key ↔ ∃ raw, key = qualify scope raw := by
  constructor
  · rintro ⟨rest, hrest⟩
    refine ⟨String.ofList rest, String.toList_inj.mp ?_⟩
    rw [← hrest]
    simp [qualify]
  · rintro ⟨raw, rfl⟩
    exact ⟨raw.toList, by simp [qualify]⟩

/-- A key that does not begin with a namespace is not in it. -/
theorem qualify_ne (h : ¬ scope.toList <+: key.toList) : qualify scope raw ≠ key := by
  rintro rfl
  refine h ⟨".".toList ++ raw.toList, ?_⟩
  simp [qualify]

end KeyCache

namespace Event

variable {framework : Framework} {settings : CaptureSettings} {here : ThreadInfo} {event : Event}
  {key : String} {write : String × Value} {form : String → String}
  {entries entries' : List (String × String)}

/-! ## Texts -/

theorem consistent_textWrites (hform : Function.Injective form) (h : Consistent entries) :
    Consistent (textWrites form entries) := by
  intro key value value' hmem hmem'
  obtain ⟨entry, hentry, heq⟩ := List.mem_map.mp hmem
  obtain ⟨entry', hentry', heq'⟩ := List.mem_map.mp hmem'
  obtain ⟨rfl, rfl⟩ := Prod.ext_iff.mp heq
  obtain ⟨hkey, rfl⟩ := Prod.ext_iff.mp heq'
  have hraw : entry'.1 = entry.1 := hform hkey
  exact congrArg Value.text (h entry.1 entry.2 entry'.2 hentry (hraw ▸ hentry'))

theorem nodup_keys_textWrites (hform : Function.Injective form)
    (h : (entries.map Prod.fst).Nodup) : ((textWrites form entries).map Prod.fst).Nodup := by
  have hkeys : (textWrites form entries).map Prod.fst = (entries.map Prod.fst).map form := by
    rw [textWrites, List.map_map, List.map_map]
    rfl
  rw [hkeys]
  exact h.map hform

/-- Entries that give no key two values are written alike in any order, also with repetitions. -/
theorem lastWrite?_textWrites_congr (hform : Function.Injective form) (h : Consistent entries)
    (hsame : ∀ entry, entry ∈ entries ↔ entry ∈ entries') (key : String) :
    lastWrite? (textWrites form entries) key = lastWrite? (textWrites form entries') key := by
  refine lastWrite?_congr (consistent_textWrites hform h) fun write => ?_
  simp only [textWrites, List.mem_map, hsame]

/-! ## The keys of a block -/

/-- Under a key that is not among those of some writes nothing is written. -/
theorem lastWrite?_eq_none {writes : List (String × Value)} {keys : List String}
    (h : ∀ write ∈ writes, write.1 ∈ keys) (hkey : key ∉ keys) : lastWrite? writes key = none := by
  rw [lastWrite?_eq_none_iff, List.mem_map]
  rintro ⟨write, hwrite, rfl⟩
  exact hkey (h write hwrite)

theorem key_of_mem_textWrite {text : Option String} (h : write ∈ textWrite key text) :
    write.1 = key := by
  obtain ⟨_, -, rfl⟩ := List.mem_map.mp h
  rfl

theorem key_of_mem_throwableWrites {throwable : Throwable} (h : write ∈ throwableWrites throwable) :
    write.1 ∈ Key.ofExceptions := by
  simp only [throwableWrites, List.mem_append] at h
  rcases h with (h | h) | h <;> rw [key_of_mem_textWrite h] <;> decide

theorem key_of_mem_threadWrites {thread : ThreadInfo} (h : write ∈ threadWrites thread) :
    write.1 ∈ Key.ofThreads := by
  rcases List.mem_append.mp h with h | h
  · rw [key_of_mem_textWrite h]
    decide
  · obtain ⟨_, -, rfl⟩ := List.mem_map.mp h
    exact List.mem_cons_of_mem _ List.mem_cons_self

theorem key_of_mem_callerWrites {frame : CallerFrame} (h : write ∈ callerWrites frame) :
    write.1 ∈ Key.ofCallers := by
  simp only [callerWrites, List.mem_append] at h
  rcases h with ((h | h) | h) | h
  iterate 3
    · rw [key_of_mem_textWrite h]
      decide
  · split_ifs at h
    · obtain rfl := List.mem_singleton.mp h
      simp [Key.ofCallers]
    · cases h

theorem key_of_mem_markerWrites {marker : String} (h : write ∈ markerWrites framework marker) :
    framework.markerKey = some write.1 := by
  rw [markerWrites] at h
  rcases hkey : framework.markerKey with _ | key
  · rw [hkey] at h
    cases h
  · rw [hkey, Option.elim_some, List.mem_singleton] at h
    rw [h]

/-! ## The keys of an event -/

/-- The writes of an event under keys that the host chooses freely. -/
def verbatimWrites (framework : Framework) (settings : CaptureSettings) (event : Event) :
    List (String × Value) :=
  (if framework.contextNamespace = none then
    textWrites id (Mapper.wantedEntries settings (answer event.context))
  else []) ++
  if settings.loggerContext then
    (answer event.properties).elim [] fun table => textWrites id table.entries
  else []

theorem exists_of_mem_elim {α : Type} {answer : Option α} {writes : α → List (String × Value)}
    (h : write ∈ answer.elim [] writes) : ∃ a, write ∈ writes a := by
  rcases answer with _ | a
  · cases h
  · exact ⟨a, h⟩

theorem mem_verbatimWrites : write ∈ event.verbatimWrites framework settings ↔
    (framework.contextNamespace = none ∧
      write ∈ textWrites id (Mapper.wantedEntries settings (answer event.context))) ∨
    (settings.loggerContext ∧
      write ∈ (answer event.properties).elim [] fun table => textWrites id table.entries) := by
  rw [verbatimWrites, List.mem_append, List.mem_ite_nil_right, List.mem_ite_nil_right]

/-- What is written after the message has a key that is written by name, the key of markers, a key
in the namespace of the diagnostic context, or a key that the host chooses freely. -/
theorem key_of_mem_tail (h : write ∈ (event.blocks framework settings here).tail.flatten) :
    write.1 ∈ Key.ofEvents ∨ framework.markerKey = some write.1 ∨
      (∃ scope, framework.contextNamespace = some scope ∧ KeyCache.Within scope write.1) ∨
      write ∈ event.verbatimWrites framework settings := by
  simp only [blocks, List.tail_cons, List.flatten_cons, List.flatten_nil, List.append_nil,
    List.mem_append] at h
  rcases h with hthrowable | hcontext | hthread | hcaller | hmarker | hproperties
  · obtain ⟨throwable, h⟩ := exists_of_mem_elim hthrowable
    have hkeys : Key.ofExceptions ⊆ Key.ofEvents := by decide
    exact .inl (hkeys (key_of_mem_throwableWrites h))
  · rcases hscope : framework.contextNamespace with _ | scope
    · rw [hscope] at hcontext
      exact .inr (.inr (.inr (mem_verbatimWrites.mpr (.inl ⟨hscope, hcontext⟩))))
    · rw [hscope] at hcontext
      obtain ⟨entry, -, rfl⟩ := List.mem_map.mp hcontext
      exact .inr (.inr (.inl ⟨scope, rfl, KeyCache.within_iff.mpr ⟨entry.1, rfl⟩⟩))
  · have hkeys : Key.ofThreads ⊆ Key.ofEvents := by decide
    exact .inl (hkeys (key_of_mem_threadWrites (List.mem_ite_nil_right.mp hthread).2))
  · obtain ⟨frame, h⟩ := exists_of_mem_elim (List.mem_ite_nil_right.mp hcaller).2
    have hkeys : Key.ofCallers ⊆ Key.ofEvents := by decide
    exact .inl (hkeys (key_of_mem_callerWrites h))
  · obtain ⟨marker, h⟩ := exists_of_mem_elim (List.mem_ite_nil_right.mp hmarker).2
    exact .inr (.inl (key_of_mem_markerWrites h))
  · exact .inr (.inr (.inr (mem_verbatimWrites.mpr (.inr (List.mem_ite_nil_right.mp hproperties)))))

end Event

end Telemetry
