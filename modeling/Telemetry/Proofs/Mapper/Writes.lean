import Telemetry.Proofs.Attribute.LastWrite
import Telemetry.Proofs.Bridge.History
import Telemetry.Proofs.Text.ByteOrder

/-!
# The attributes of an event

What a mapper collects from an event is said without the mapper: the event and the settings give
blocks of writes, one for each kind of data, and the attributes are what these writes leave, each
key at the place of its first write and with the value of its last.

* `Event.blocks`: the writes of an event, block by block.
* `Event.record`: the record that an event is mapped to, and `Event.asked`, `Event.askedAll`: the
  accessors that are asked before, any of which may panic.
* `Mapper.Adds`: a step of a mapping asks some accessors and adds some writes. Each step adds those
  of its block, and steps in a row add their writes in a row.
* `Mapper.map_collect_eq`: mapping and collecting end in the first panic of the accessors that they
  ask, or else in the record of the event.

Main statement: a record and a collection of an event that does not panic have the same attributes,
which are what its writes leave (`Mapper.collects_last_writes`).
-/

namespace Telemetry

open Attempt Attribute

/-! ## The writes of an event -/

namespace Event

/-- What an accessor answers, if it does not panic. -/
def answer {α : Type} (accessor : Except Panic (Option α)) : Option α := accessor.toOption.join

/-- The entries of a table as writes of texts, each under the key that `form` makes of its own. -/
def textWrites (form : String → String) (entries : List (String × String)) :
    List (String × Value) :=
  entries.map fun entry => (form entry.1, .text entry.2)

/-- The write of a text, if there is one. -/
def textWrite (key : String) (text : Option String) : List (String × Value) :=
  text.toList.map fun text => (key, .text text)

/-- The writes of a map message: its entries in their order, without the one that is its text. -/
def mapMessageWrites (framework : Framework) (message : MapMessage) : List (String × Value) :=
  textWrites (KeyCache.form (some framework.mapMessageNamespace)) <|
    message.entries.toList.filter fun entry =>
      ¬ (message.isPromoting ∧ entry.1 = MapMessage.textKey)

/-- The writes of a message. Only the entries of a map message are written, if they are wanted. -/
def messageWrites (framework : Framework) (settings : CaptureSettings) :
    Option Message → List (String × Value)
  | some (.map message) => if settings.mapMessage then mapMessageWrites framework message else []
  | some (.text _) | none => []

/-- The writes of an exception. -/
def throwableWrites (throwable : Throwable) : List (String × Value) :=
  textWrite Key.exceptionType (some throwable.typeName) ++
    textWrite Key.exceptionMessage throwable.message ++
    textWrite Key.exceptionStacktrace (some throwable.stackTrace)

/-- The writes of a thread. A number beyond the signed 64-bit integers is not written. -/
def threadWrites (thread : ThreadInfo) : List (String × Value) :=
  textWrite Key.threadName thread.name ++
    (thread.id.filter (· ≤ 9223372036854775807)).toList.map fun id => (Key.threadId, .int id)

/-- The writes of a call site. -/
def callerWrites (frame : CallerFrame) : List (String × Value) :=
  textWrite Key.codeFilepath frame.file ++
    textWrite Key.codeNamespace (some frame.className) ++
    textWrite Key.codeFunction (some frame.methodName) ++
    if 0 < frame.line then [(Key.codeLine, .int frame.line)] else []

/-- The write of a marker, in a framework that has a key for it. -/
def markerWrites (framework : Framework) (marker : String) : List (String × Value) :=
  framework.markerKey.elim [] fun key => [(key, .text marker)]

/-- The writes of an event, one block for each kind of data, in the order in which they are
written. The thread `here` is the one that captures. -/
def blocks (framework : Framework) (settings : CaptureSettings) (here : ThreadInfo)
    (event : Event) : List (List (String × Value)) :=
  [messageWrites framework settings (answer event.message),
    (answer event.throwable).elim [] throwableWrites,
    textWrites (KeyCache.form framework.contextNamespace)
      (Mapper.wantedEntries settings (answer event.context)),
    if settings.thread then threadWrites ((answer event.thread).getD here) else [],
    if settings.code then (answer event.caller).elim [] callerWrites else [],
    if settings.marker then (answer event.marker).elim [] (markerWrites framework) else [],
    if settings.loggerContext then
      (answer event.properties).elim [] fun table => textWrites id table.entries
    else []]

/-- The text of a message. -/
def body? : Message → Option String
  | .text s => some s
  | .map message => message.text?

/-- The record of an event whose accessors answer. -/
def record (framework : Framework) (settings : CaptureSettings) (here : ThreadInfo)
    (event : Event) : Record where
  body := (answer event.message).bind body?
  timestamp := answer event.timestamp
  severity := (answer event.level).bind fun level => framework.ladder.severity? level.value
  severityText := (answer event.level).map (·.name)
  attributes := AttributeMap.empty.insertMany (event.blocks framework settings here).flatten

/-- Asks an accessor, if it is wanted, only for whether it panics. -/
def ask {α : Type} (wanted : Bool) (accessor : Except Panic α) : Except Panic Unit :=
  if wanted then accessor.map fun _ => () else .ok ()

/-- What asking the accessors ends in that are asked for attributes besides the message. -/
def askedCommon (settings : CaptureSettings) (event : Event) : Except Panic Unit := do
  ask true event.throwable
  ask true event.context
  ask settings.thread event.thread
  ask settings.code event.caller
  ask settings.marker event.marker
  ask settings.loggerContext event.properties

/-- What asking the accessors ends in that are asked for attributes. -/
def asked (settings : CaptureSettings) (event : Event) : Except Panic Unit := do
  ask true event.message
  askedCommon settings event

/-- What asking the accessors ends in that are asked for a record. -/
def askedAll (settings : CaptureSettings) (event : Event) : Except Panic Unit := do
  asked settings event
  ask true event.level
  ask true event.timestamp

theorem answer_ok {α : Type} {a : Option α} : answer (.ok a) = a := by
  cases a <;> rfl

theorem answer_eq_some_iff {α : Type} {accessor : Except Panic (Option α)} {a : α} :
    answer accessor = some a ↔ accessor = .ok (some a) := by
  rcases accessor with panic | a'
  · exact ⟨nofun, nofun⟩
  · rw [answer_ok, Except.ok.injEq]

theorem ask_ok {α : Type} {wanted : Bool} {accessor : Except Panic α} {a : α}
    (h : accessor = .ok a) : ask wanted accessor = .ok () := by
  rw [h]
  cases wanted <;> rfl

/-- Every accessor of the event gives its answer. -/
structure Complete (event : Event) : Prop where
  level : event.level = .ok (answer event.level)
  message : event.message = .ok (answer event.message)
  timestamp : event.timestamp = .ok (answer event.timestamp)
  throwable : event.throwable = .ok (answer event.throwable)
  thread : event.thread = .ok (answer event.thread)
  context : event.context = .ok (answer event.context)
  marker : event.marker = .ok (answer event.marker)
  caller : event.caller = .ok (answer event.caller)
  properties : event.properties = .ok (answer event.properties)

/-- The accessors of an event that does not panic give their answers. -/
theorem complete_of_not_raises {event : Event} (h : ∀ panic, ¬ event.Raises panic) :
    event.Complete := by
  have heq : ∀ {α : Type} {accessor : Except Panic (Option α)},
      (∀ panic, accessor = .error panic → event.Raises panic) →
        accessor = .ok (answer accessor) := by
    intro α accessor hraises
    rcases accessor with panic | (_ | a)
    · exact absurd (hraises panic rfl) (h panic)
    · rfl
    · rfl
  constructor <;>
    exact heq fun panic hpanic => by simp [Event.Raises, hpanic]

/-- Asking the accessors of an event that gives all its answers does not panic. -/
theorem Complete.askedAll_eq {event : Event} (h : event.Complete) (settings : CaptureSettings) :
    event.asked settings = .ok () ∧ event.askedAll settings = .ok () := by
  have hasked : event.asked settings = .ok () := by
    rw [asked, askedCommon, ask_ok h.message, ask_ok h.throwable, ask_ok h.context,
      ask_ok h.thread, ask_ok h.caller, ask_ok h.marker, ask_ok h.properties]
    rfl
  refine ⟨hasked, ?_⟩
  rw [askedAll, hasked, ask_ok h.level, ask_ok h.timestamp]
  rfl

end Event

namespace Mapper

open Event

variable {framework : Framework} {settings : CaptureSettings} {here : ThreadInfo} {event : Event}
  {writes later : List (String × Value)} {ended endedNext : Except Panic Unit}

/-! ## Steps of a mapping -/

/-- A step of a mapping that ends as the accessors do that it asks. If none of them panics, it adds
`writes` to the attributes. The mapper is as faithful afterwards as before. -/
def Adds (framework : Framework) (settings : CaptureSettings) (ended : Except Panic Unit)
    (writes : List (String × Value)) (step : AttributeMap → Attempt Mapper AttributeMap) : Prop :=
  ∀ m attributes, m.Faithful framework settings →
    ∃ m', step attributes m = (ended.map fun _ => attributes.insertMany writes, m') ∧
      m'.Faithful framework settings

theorem adds_pure {step : AttributeMap → AttributeMap}
    (h : ∀ attributes, step attributes = attributes.insertMany writes) :
    Adds framework settings (.ok ()) writes (pure <| step ·) :=
  fun m attributes hm => ⟨m, congrArg (fun added => (Except.ok added, m)) (h attributes), hm⟩

/-- Steps in a row end in the first panic, or add their writes in a row. -/
theorem Adds.bind {step next : AttributeMap → Attempt Mapper AttributeMap}
    (hstep : Adds framework settings ended writes step)
    (hnext : Adds framework settings endedNext later next) :
    Adds framework settings (ended >>= fun _ => endedNext) (writes ++ later)
      fun attributes => step attributes >>= next := by
  intro m attributes hm
  obtain ⟨m₁, hfirst, hm₁⟩ := hstep m attributes hm
  cases ended with
  | error panic => exact ⟨m₁, bind_error hfirst, hm₁⟩
  | ok =>
    obtain ⟨m₂, hsecond, hm₂⟩ := hnext m₁ (attributes.insertMany writes) hm₁
    rw [AttributeMap.insertMany_append]
    exact ⟨m₂, (bind_ok hfirst).trans hsecond, hm₂⟩

/-- What an accessor answers adds its writes if it is wanted, and none otherwise. -/
theorem adds_captureAnswer {α : Type} (wanted : Bool) (accessor : Except Panic (Option α))
    {capture : α → AttributeMap → Attempt Mapper AttributeMap}
    (hcapture : ∀ answer, accessor = .ok answer →
      Adds framework settings (.ok ()) writes (captureSome capture answer)) :
    Adds framework settings (ask wanted accessor) (if wanted then writes else [])
      (captureAnswer wanted accessor capture) := by
  intro m attributes hm
  cases wanted with
  | false => exact ⟨m, rfl, hm⟩
  | true =>
    rw [captureAnswer_wanted]
    cases accessor with
    | error panic => exact ⟨m, rfl, hm⟩
    | ok answer => exact hcapture answer rfl m attributes hm

/-- An answer that is captured without any help of the mapper adds what it adds to a map. -/
theorem adds_captureSome_pure {α : Type} {answer : Option α}
    {capture : α → AttributeMap → AttributeMap} {writes : α → List (String × Value)}
    (h : ∀ a attributes, capture a attributes = attributes.insertMany (writes a)) :
    Adds framework settings (.ok ()) (answer.elim [] writes)
      (captureSome (pure <| capture · ·) answer) := by
  rcases answer with _ | a
  · exact adds_pure fun _ => rfl
  · exact adds_pure (h a)

theorem adds_captureAnswer_pure {α : Type} (wanted : Bool) (accessor : Except Panic (Option α))
    {capture : α → AttributeMap → AttributeMap} {writes : α → List (String × Value)}
    (h : ∀ a attributes, capture a attributes = attributes.insertMany (writes a)) :
    Adds framework settings (ask wanted accessor)
      (if wanted then (answer accessor).elim [] writes else [])
      (captureAnswer wanted accessor (pure <| capture · ·)) := by
  refine adds_captureAnswer wanted accessor fun answer hanswer => ?_
  rw [hanswer, answer_ok]
  exact adds_captureSome_pure h

/-- The entries of a table are written under the keys that are formed of theirs. -/
theorem adds_writeEntries {keys : Lens Mapper KeyCache} {form : String → String}
    (hkey : ∀ raw m, m.Faithful framework settings →
      ∃ m', focus keys (KeyCache.key raw) m = (.ok (form raw), m') ∧
        m'.Faithful framework settings)
    (entries : List (String × String)) :
    Adds framework settings (.ok ()) (textWrites form entries) (writeEntries keys entries) := by
  induction entries with
  | nil => exact fun m attributes hm => ⟨m, rfl, hm⟩
  | cons entry rest ih =>
    intro m attributes hm
    obtain ⟨m₁, hkey, hm₁⟩ := hkey entry.1 m hm
    obtain ⟨m₂, hrest, hm₂⟩ := ih m₁ (attributes.insertText (form entry.1) entry.2) hm₁
    exact ⟨m₂, (bind_ok hkey).trans hrest, hm₂⟩

/-! ## The blocks -/

theorem insertText?_eq {key : String} {text : Option String} (attributes : AttributeMap) :
    attributes.insertText? key text = attributes.insertMany (textWrite key text) := by
  cases text <;> rfl

theorem captureThrowable_eq (throwable : Throwable) (attributes : AttributeMap) :
    captureThrowable throwable attributes = attributes.insertMany (throwableWrites throwable) := by
  rw [throwableWrites, AttributeMap.insertMany_append, AttributeMap.insertMany_append,
    ← insertText?_eq, ← insertText?_eq, ← insertText?_eq]
  rfl

theorem captureThread_eq (thread : ThreadInfo) (attributes : AttributeMap) :
    captureThread thread attributes = attributes.insertMany (threadWrites thread) := by
  -- The greatest signed 64-bit integer is the one before the power that bounds the numbers.
  have hfits : (fun id : Nat => decide (id < Nat.pow 2 63)) =
      fun id => decide (id ≤ 9223372036854775807) :=
    funext fun id => decide_eq_decide.mpr Nat.lt_succ_iff
  rw [threadWrites, AttributeMap.insertMany_append, ← insertText?_eq, captureThread, hfits]
  cases thread.id.filter (· ≤ 9223372036854775807) <;> rfl

theorem captureCaller_eq (frame : CallerFrame) (attributes : AttributeMap) :
    captureCaller frame attributes = attributes.insertMany (callerWrites frame) := by
  rw [callerWrites, AttributeMap.insertMany_append, AttributeMap.insertMany_append,
    AttributeMap.insertMany_append, ← insertText?_eq, ← insertText?_eq, ← insertText?_eq,
    captureCaller]
  split <;> rfl

/-- The diagnostic context is written entry by entry, under the namespace of the framework. -/
theorem adds_captureContext (table : Option ContextTable) :
    Adds framework settings (.ok ())
      (textWrites (KeyCache.form framework.contextNamespace) (wantedEntries settings table))
      (captureSome captureContext table) := by
  intro m attributes hm
  rw [captureSome_captureContext, hm.serves.2]
  -- What the mapper remembers of keys does not show in them, and stays faithful.
  refine adds_writeEntries (fun raw m hm => ?_) _ m attributes hm
  obtain ⟨hkey, hkept⟩ := hm.contextKeys.key raw
  exact ⟨_, Prod.ext hkey rfl, { hm with contextKeys := hkept }⟩

/-- The entries of a map message are written entry by entry, if they are wanted. -/
theorem adds_captureMapMessage (message : MapMessage) :
    Adds framework settings (.ok ())
      (if settings.mapMessage then mapMessageWrites framework message else [])
      (captureMapMessage message) := by
  intro m attributes hm
  rw [captureMapMessage, bind_ok get_apply, hm.serves.2]
  split_ifs
  · -- The entry that is the text of the message is left out by both.
    have hfilter : (fun entry : String × String =>
        !(message.isPromoting && entry.1 = MapMessage.textKey)) =
          fun entry => decide (¬ (message.isPromoting ∧ entry.1 = MapMessage.textKey)) := by
      funext entry
      simp
    rw [mapMessageWrites, ← hfilter]
    refine adds_writeEntries (fun raw m hm => ?_) _ m attributes hm
    obtain ⟨hkey, hkept⟩ := hm.mapMessageKeys.key raw
    exact ⟨_, Prod.ext hkey rfl, { hm with mapMessageKeys := hkept }⟩
  · exact ⟨m, rfl, hm⟩

theorem captureMessage_eq {m : Mapper} (hm : m.Faithful framework settings)
    (message : Option Message) :
    ∃ m', captureMessage message m = (.ok (message.bind body?,
        AttributeMap.empty.insertMany (messageWrites framework settings message)), m') ∧
      m'.Faithful framework settings := by
  match message with
  | none => exact ⟨m, rfl, hm⟩
  | some (.text s) => exact ⟨m, rfl, hm⟩
  | some (.map message) =>
    obtain ⟨m', hcaptured, hm'⟩ := adds_captureMapMessage message m .empty hm
    exact ⟨m', bind_ok hcaptured, hm'⟩

theorem captureMarker_eq (framework : Framework) (marker : String) (attributes : AttributeMap) :
    captureMarker framework marker attributes =
      attributes.insertMany (markerWrites framework marker) := by
  rw [captureMarker, markerWrites]
  cases framework.markerKey <;> rfl

theorem captureProperties_eq (properties : ContextTable) (attributes : AttributeMap) :
    captureProperties properties attributes =
      attributes.insertMany (textWrites id properties.entries) := rfl

/-- The capturing thread stands in for a thread that the event does not know. -/
theorem adds_captureThread (here : ThreadInfo) (event : Event) :
    Adds framework settings (ask settings.thread event.thread)
      (if settings.thread then threadWrites ((answer event.thread).getD here) else [])
      (captureAnswer settings.thread (event.thread.map fun thread => some (thread.getD here))
        (pure <| captureThread · ·)) := by
  have hask : ask settings.thread event.thread =
      ask settings.thread (event.thread.map fun thread => some (thread.getD here)) := by
    cases event.thread <;> rfl
  rw [hask]
  refine adds_captureAnswer settings.thread _ fun thread hthread => ?_
  rcases hanswer : event.thread with panic | answer
  · rw [hanswer] at hthread
    cases hthread
  · rw [hanswer] at hthread
    cases hthread
    rw [answer_ok]
    exact adds_pure (captureThread_eq _)

/-- Everything but the message is written in blocks, in the order of the accessors. -/
theorem adds_captureCommon (here : ThreadInfo) (event : Event) :
    Adds framework settings (event.askedCommon settings)
      (event.blocks framework settings here).tail.flatten (captureCommon here event) := by
  have hthrowable : Adds framework settings _ _ _ :=
    adds_captureAnswer_pure true event.throwable captureThrowable_eq
  have hcontext : Adds framework settings _ _ _ :=
    adds_captureAnswer true event.context fun table htable => by
      rw [← answer_ok (a := table), ← htable]
      exact adds_captureContext _
  have hcaller : Adds framework settings _ _ _ :=
    adds_captureAnswer_pure settings.code event.caller captureCaller_eq
  have hmarker : Adds framework settings _ _ _ :=
    adds_captureAnswer_pure settings.marker event.marker (captureMarker_eq framework)
  have hproperties : Adds framework settings _ _ _ :=
    adds_captureAnswer_pure settings.loggerContext event.properties captureProperties_eq
  intro m attributes hm
  obtain ⟨hframework, hsettings⟩ := hm.serves
  rw [captureCommon, bind_ok get_apply]
  simp only [hframework, hsettings, blocks, List.tail_cons, List.flatten_cons, List.flatten_nil,
    List.append_nil]
  exact (hthrowable.bind <| hcontext.bind <| (adds_captureThread here event).bind <|
    hcaller.bind <| hmarker.bind hproperties) m attributes hm

/-- A mapping and a collection of an event ask its accessors, and end in the first panic of them or
in the record of the event. -/
theorem map_collect_eq {m : Mapper} (hm : m.Faithful framework settings) (here : ThreadInfo)
    (event : Event) :
    ∃ m', map here event m =
        ((event.askedAll settings).map fun _ => event.record framework settings here, m') ∧
      collect here event m =
        ((event.asked settings).map fun _ => (event.record framework settings here).attributes,
          m') := by
  rcases hmessage : event.message with panic | message
  · -- Nothing but the message is asked for.
    refine ⟨m, ?_, ?_⟩
    · rw [map, askedAll, asked, hmessage]
      rfl
    · rw [collect, asked, hmessage]
      rfl
  have hanswer : answer event.message = message := by
    rw [hmessage, answer_ok]
  obtain ⟨m₁, hbody, hm₁⟩ := captureMessage_eq hm message
  obtain ⟨m₂, hcommon, hm₂⟩ := adds_captureCommon here event m₁
    (AttributeMap.empty.insertMany (messageWrites framework settings message)) hm₁
  have hasked : event.asked settings = event.askedCommon settings := by
    rw [asked, ask_ok hmessage]
    rfl
  have hattributes : (event.record framework settings here).attributes =
      (AttributeMap.empty.insertMany (messageWrites framework settings message)).insertMany
        (event.blocks framework settings here).tail.flatten := by
    rw [← AttributeMap.insertMany_append, ← hanswer]
    rfl
  rw [← hasked, ← hattributes] at hcommon
  refine ⟨m₂, ?_, ?_⟩
  · rw [map, askedAll, hmessage]
    -- After the attributes come the level and the time, which leave the mapper as it is.
    refine (bind_ok hbody).trans ?_
    rcases hended : event.asked settings with panic | ⟨⟩
    · rw [hended] at hcommon
      exact bind_error hcommon
    · rw [hended] at hcommon
      refine (bind_ok hcommon).trans ?_
      rcases hlevel : event.level with panic | level
      · rfl
      rcases htimestamp : event.timestamp with panic | timestamp
      · rfl
      rw [record, hanswer, hlevel, htimestamp, answer_ok, answer_ok, ← hm₂.serves.1]
      rfl
  · rw [collect, hmessage]
    exact (bind_ok hbody).trans hcommon

/-- What is collected are the attributes of the record of the event. -/
theorem eq_of_collect {m m' : Mapper} {attributes : AttributeMap}
    (hm : m.Faithful framework settings) (h : collect here event m = (.ok attributes, m')) :
    attributes = (event.record framework settings here).attributes := by
  obtain ⟨n, -, hcollect⟩ := map_collect_eq hm here event
  rw [hcollect] at h
  rcases hasked : event.asked settings with panic | ⟨⟩
  · rw [hasked] at h
    cases h
  · rw [hasked] at h
    cases h
    rfl

/-- What is mapped is the record of the event, of which a collection collects the attributes. -/
theorem eq_of_map {m m' : Mapper} {record : Record} (hm : m.Faithful framework settings)
    (h : map here event m = (.ok record, m')) :
    record = event.record framework settings here ∧
      collect here event m = (.ok record.attributes, m') := by
  obtain ⟨n, hmap, hcollect⟩ := map_collect_eq hm here event
  rw [hmap] at h
  rcases hasked : event.asked settings with panic | ⟨⟩
  · rw [askedAll, hasked] at h
    cases h
  · rcases hended : event.askedAll settings with panic | ⟨⟩
    · rw [hended] at h
      cases h
    · rw [hended] at h
      cases h
      rw [hcollect, hasked]
      exact ⟨rfl, rfl⟩

/-- A mapping and a collection of an event that does not panic both end in its writes. -/
theorem map_eq_writes {m : Mapper} (hm : m.Faithful framework settings) (here : ThreadInfo)
    (hevent : event.Complete) :
    ∃ record m', map here event m = (.ok record, m') ∧
      collect here event m = (.ok record.attributes, m') ∧
      record.attributes =
        AttributeMap.empty.insertMany (event.blocks framework settings here).flatten := by
  obtain ⟨m', hmap, hcollect⟩ := map_collect_eq hm here event
  obtain ⟨hasked, haskedAll⟩ := hevent.askedAll_eq settings
  rw [haskedAll] at hmap
  rw [hasked] at hcollect
  exact ⟨event.record framework settings here, m', hmap, hcollect, rfl⟩

/-- An event that does not panic is mapped and collected. -/
theorem returns_of_not_raises {m : Mapper} (hm : m.Faithful framework settings)
    (here : ThreadInfo) (hevent : ∀ panic, ¬ event.Raises panic) :
    ∃ record m', map here event m = (.ok record, m') ∧
      collect here event m = (.ok record.attributes, m') := by
  obtain ⟨record, m', hmap, hcollect, -⟩ := map_eq_writes hm here (complete_of_not_raises hevent)
  exact ⟨record, m', hmap, hcollect⟩

/-! ## The attributes -/

/-- An event that does not panic is mapped and collected to the same attributes, whatever the mapper
has done before: to those that the writes of the event leave. Each key occurs once, and the latest
block that writes a key decides its value. The entries of a map message are written in the order of
the bytes of their keys. -/
theorem collects_last_writes (uses : List Use) (here : ThreadInfo)
    (hevent : ∀ panic, ¬ event.Raises panic) :
    let m := (ofSettings framework settings).used uses
    let blocks := event.blocks framework settings here
    ∃ record m', Mapper.map here event m = (.ok record, m') ∧
      Mapper.collect here event m = (.ok record.attributes, m') ∧
      record.attributes.toList = AttributeMap.lastWins blocks.flatten ∧
      (record.attributes.toList.map Prod.fst).Nodup ∧
      (∀ before block after key, blocks = before ++ block :: after →
        key ∈ block.map Prod.fst → key ∉ after.flatten.map Prod.fst →
          record.attributes.get? key = AttributeMap.lastWrite? block key) ∧
      ∀ message, Event.answer event.message = some (.map message) →
        message.entries.toList.Pairwise fun entry other =>
          Text.bytes entry.1 < Text.bytes other.1 := by
  intro m blocks
  have hm : m.Faithful framework settings := faithful_ofSettings.used uses
  obtain ⟨record, m', hmap, hcollect, hattributes⟩ :=
    map_eq_writes hm here (complete_of_not_raises hevent)
  have hlist : record.attributes.toList = AttributeMap.lastWins blocks.flatten := by
    rw [hattributes, AttributeMap.toList_insertMany]
  refine ⟨record, m', hmap, hcollect, hlist, ?_, ?_, ?_⟩
  · rw [hlist, AttributeMap.keys_lastWins]
    exact AttributeMap.nodup_eraseDups _
  · intro before block after key hblocks hwritten hafter
    calc record.attributes.get? key
        = AttributeMap.lastWrite? blocks.flatten key := by
          rw [hattributes, AttributeMap.get?_insertMany]
      _ = AttributeMap.lastWrite? block key := by
          rw [hblocks]
          exact AttributeMap.lastWrite?_of_blocks hafter hwritten
  · exact fun message _ => Text.toList_pairwise_bytes message.entries

/-- An event whose diagnostic context and logger context have keys under which other data is
written, and whose thread has a number beyond the signed 64-bit integers. -/
def colliding : Event where
  framework := .log4j2
  message := .ok (some (.map (({} : MapMessage).insert "b" "2" |>.insert "a" "1")))
  throwable := .ok (some ⟨"IOError", none, "IOError at Disk"⟩)
  context := .ok (some (.ofList [("exception.type", "forged"), ("user", "ada")]))
  thread := .ok (some ⟨some "main", some 9223372036854775808⟩)
  properties := .ok (some (.ofList [("user", "bob"), ("thread.name", "worker")]))

theorem colliding_collected :
    ∃ record m', Mapper.map {} colliding (ofSettings .log4j2
        { thread := true, contextKeys := ["*"], mapMessage := true, loggerContext := true }) =
          (.ok record, m') ∧
      record.attributes.toList =
        [("log4j.map_message.a", .text "1"), ("log4j.map_message.b", .text "2"),
          ("exception.type", .text "forged"), ("exception.stacktrace", .text "IOError at Disk"),
          ("user", .text "bob"), ("thread.name", .text "worker")] := by
  have hevent : ∀ panic, ¬ colliding.Raises panic := by
    simp [Event.Raises, colliding]
  obtain ⟨record, m', hmap, -, hlist, -⟩ := collects_last_writes [] {} hevent
  exact ⟨record, m', hmap, hlist⟩

end Mapper

end Telemetry
