import Mathlib.Data.List.Basic
import Telemetry.Mapper
import Telemetry.Proofs.Attempt

/-!
# Events that are the same to a mapper

Two events that agree on what the settings of a mapper let through are the same to the mapper,
however they differ elsewhere, and even if an accessor that is not wanted panics in one of them.

* `Event.AgreeOn`: the agreement, accessor by accessor.
* `Mapper.Steady`: a relation between mappers of one framework with the same settings that forming
  attribute keys keeps.

Main statement: mapping does nothing to a mapper but form attribute keys, so it keeps a steady
relation too, and maps events that agree in the same way (`Mapper.Steady.map`). With one event and
two mappers this compares what they remember; with two events and one mapper, what it is shown.
-/

namespace Telemetry

open Attempt

/-! ## Agreement -/

/-- Two accessors panic in the same way, or answer something that `R` relates. -/
inductive Alike {α : Type} (R : α → α → Prop) : Except Panic α → Except Panic α → Prop
  | answer {a b : α} (h : R a b) : Alike R (.ok a) (.ok b)
  | panic (panic : Panic) : Alike R (.error panic) (.error panic)

theorem Alike.refl {α : Type} {R : α → α → Prop} (hR : ∀ a, R a a) (x : Except Panic α) :
    Alike R x x := by
  cases x with
  | ok a => exact .answer (hR a)
  | error panic => exact .panic panic

/-- What follows accessors that are alike starts from answers that are related. -/
theorem Alike.bind {σ α β : Type} {S : σ → σ → Prop} {R : α → α → Prop}
    {accessor accessor' : Except Panic α} (h : Alike R accessor accessor')
    {f g : α → Attempt σ β} (hf : ∀ a b, R a b → Simulates S (f a) (g b)) :
    Simulates S (liftM accessor >>= f) (liftM accessor' >>= g) := by
  cases h with
  | answer h => exact hf _ _ h
  | panic panic => exact fun _ _ hst => ⟨rfl, hst⟩

/-- The entries of a map message matter if they are captured. Otherwise only the format matters
and, without a format or with an empty one, the entry that is the text. -/
def MapMessage.AgreeOn (settings : CaptureSettings) (m m' : MapMessage) : Prop :=
  m.format = m'.format ∧
    if settings.mapMessage then m.entries.Equiv m'.entries
    else m.isPromoting → m.get? textKey = m'.get? textKey

/-- The whole of a text matters. -/
def Message.AgreeOn (settings : CaptureSettings) : Message → Message → Prop
  | .text s, .text s' => s = s'
  | .map m, .map m' => m.AgreeOn settings m'
  | _, _ => False

/-- Two tables list the same entries in the same order, where no table is an empty one. -/
def ContextTable.SameEntries (table table' : Option ContextTable) : Prop :=
  (table.map (·.entries)).getD [] = (table'.map (·.entries)).getD []

/-- With the star the listed entries of a diagnostic context matter, and without it the values of
the wanted keys. -/
def ContextTable.AgreeOn (settings : CaptureSettings) (table table' : Option ContextTable) : Prop :=
  if settings.capturesAllContext then SameEntries table table'
  else ∀ key ∈ settings.contextKeys, table.bind (·.value? key) = table'.bind (·.value? key)

/-- Two events agree on what a mapper of the framework lets through with the settings. Nothing is
said of the logger name, which is no part of a record, and of accessors that are not wanted. -/
structure Event.AgreeOn (framework : Framework) (settings : CaptureSettings)
    (event event' : Event) : Prop where
  message : Alike (Option.Rel (Message.AgreeOn settings)) event.message event'.message
  throwable : event.throwable = event'.throwable
  context : Alike (ContextTable.AgreeOn settings) event.context event'.context
  thread : settings.thread → event.thread = event'.thread
  caller : settings.code → event.caller = event'.caller
  /-- In a framework without a key for markers it does not matter which marker there is, but only
  whether asking for it panics. -/
  marker : settings.marker →
    Alike (fun marker marker' => framework.markerKey.isSome → marker = marker')
      event.marker event'.marker
  properties : settings.loggerContext →
    Alike ContextTable.SameEntries event.properties event'.properties
  level : event.level = event'.level
  timestamp : event.timestamp = event'.timestamp

theorem MapMessage.agreeOn_refl (settings : CaptureSettings) (m : MapMessage) :
    m.AgreeOn settings m := by
  refine ⟨rfl, ?_⟩
  split
  · exact .rfl
  · exact fun _ => rfl

theorem Message.agreeOn_refl (settings : CaptureSettings) (message : Message) :
    message.AgreeOn settings message := by
  cases message with
  | text s => rfl
  | map m => exact m.agreeOn_refl settings

theorem ContextTable.agreeOn_refl (settings : CaptureSettings) (table : Option ContextTable) :
    ContextTable.AgreeOn settings table table := by
  rw [ContextTable.AgreeOn]
  split
  · rfl
  · exact fun _ _ => rfl

/-- An event agrees with itself. -/
theorem Event.agreeOn_refl (framework : Framework) (settings : CaptureSettings) (event : Event) :
    event.AgreeOn framework settings event where
  message := Alike.refl (fun message => by
    cases message with
    | none => exact .none
    | some message => exact .some (message.agreeOn_refl settings)) _
  throwable := rfl
  context := Alike.refl (ContextTable.agreeOn_refl settings) _
  thread _ := rfl
  caller _ := rfl
  marker _ := Alike.refl (fun _ _ => rfl) _
  properties _ := Alike.refl (R := ContextTable.SameEntries) (fun _ => rfl) _
  level := rfl
  timestamp := rfl

/-- Messages that agree have the same text, whether their entries are captured or not. -/
theorem MapMessage.AgreeOn.text?_eq {settings : CaptureSettings} {m m' : MapMessage}
    (h : m.AgreeOn settings m') : m.text? = m'.text? := by
  obtain ⟨hformat, hentries⟩ := h
  have hpromoting : m.isPromoting = m'.isPromoting := by
    rw [isPromoting, isPromoting, hformat]
  rw [text?, text?, ← hpromoting, hformat]
  by_cases hpromotes : m.isPromoting
  · have hget : m.get? textKey = m'.get? textKey := by
      split at hentries
      · exact hentries.getElem?_eq
      · exact hentries hpromotes
    rw [hget]
  · rw [if_neg hpromotes, if_neg hpromotes]

namespace Mapper

variable {framework : Framework} {settings : CaptureSettings} {R : Mapper → Mapper → Prop}

/-! ## Relations that mapping keeps -/

/-- The mapper is one of the framework, with the settings. -/
def Serves (framework : Framework) (settings : CaptureSettings) (m : Mapper) : Prop :=
  m.framework = framework ∧ m.settings = settings

/-- Mappers that `R` relates are of one framework and have the same settings. When they form an
attribute key they form the same one, and they stay related. -/
structure Steady (framework : Framework) (settings : CaptureSettings)
    (R : Mapper → Mapper → Prop) : Prop where
  serves : ∀ {m m'}, R m m' → m.Serves framework settings ∧ m'.Serves framework settings
  contextKey : ∀ raw,
    Simulates R (focus contextKeysPlace (KeyCache.key raw))
      (focus contextKeysPlace (KeyCache.key raw))
  mapMessageKey : ∀ raw,
    Simulates R (focus mapMessageKeysPlace (KeyCache.key raw))
      (focus mapMessageKeysPlace (KeyCache.key raw))

theorem simulates_writeEntries {keys : Lens Mapper KeyCache}
    (hkey : ∀ raw, Simulates R (focus keys (KeyCache.key raw)) (focus keys (KeyCache.key raw)))
    (entries : List (String × String)) (attributes : AttributeMap) :
    Simulates R (writeEntries keys entries attributes) (writeEntries keys entries attributes) := by
  induction entries generalizing attributes with
  | nil => exact simulates_pure attributes
  | cons entry rest ih =>
    obtain ⟨raw, value⟩ := entry
    exact (hkey raw).bind fun key => ih (attributes.insertText key value)

variable (hR : Steady framework settings R)
include hR

/-- A step that looks at the settings of a mapper sees the ones that are given. -/
theorem Steady.settings_bind {β : Type} {f g : CaptureSettings → Attempt Mapper β}
    (h : Simulates R (f settings) (g settings)) :
    Simulates R (do f (← get).settings) (do g (← get).settings) := by
  refine Simulates.get_bind fun m m' hm => ?_
  obtain ⟨⟨-, hsettings⟩, -, hsettings'⟩ := hR.serves hm
  rw [hsettings, hsettings']
  exact h

theorem Steady.captureMapMessage {message message' : MapMessage}
    (h : message.AgreeOn settings message') (attributes : AttributeMap) :
    Simulates R (captureMapMessage message attributes) (captureMapMessage message' attributes) := by
  obtain ⟨hformat, hentries⟩ := h
  -- The settings decide which half of the agreement there is, so they are looked at first.
  refine hR.settings_bind
    (f := fun settings => if settings.mapMessage then _ else _)
    (g := fun settings => if settings.mapMessage then _ else _) ?_
  split at hentries
  next hcaptured =>
    have hpromoting : message.isPromoting = message'.isPromoting := by
      rw [MapMessage.isPromoting, MapMessage.isPromoting, hformat]
    -- Tables with the same entries list them in the same order.
    rw [if_pos hcaptured, if_pos hcaptured, hpromoting, hentries.toList_eq]
    exact simulates_writeEntries hR.mapMessageKey _ attributes
  next hcaptured =>
    rw [if_neg hcaptured, if_neg hcaptured]
    exact simulates_pure attributes

theorem Steady.captureMessage {message message' : Option Message}
    (h : Option.Rel (Message.AgreeOn settings) message message') :
    Simulates R (captureMessage message) (captureMessage message') := by
  cases h with
  | none => exact simulates_pure _
  | @some message message' h =>
    match message, message', h with
    | .text s, .text _, rfl => exact simulates_pure _
    | .map m, .map m', h =>
      -- The text is taken from the message after its entries, and both messages have the same.
      refine (hR.captureMapMessage h .empty).bind fun attributes => ?_
      rw [h.text?_eq]
      exact simulates_pure _

omit hR

/-- Captures an answer, if there is one. -/
def captureSome {α : Type} (capture : α → AttributeMap → Attempt Mapper AttributeMap) :
    Option α → AttributeMap → Attempt Mapper AttributeMap
  | some a, attributes => capture a attributes
  | none, attributes => pure attributes

/-- If an accessor is wanted, it is called, and what it answers is captured. -/
theorem captureAnswer_wanted {α : Type} {accessor : Except Panic (Option α)}
    {capture : α → AttributeMap → Attempt Mapper AttributeMap} {attributes : AttributeMap} :
    captureAnswer true accessor capture attributes =
      liftM accessor >>= fun answer => captureSome capture answer attributes := by
  rw [captureAnswer, if_pos rfl]
  exact bind_congr fun answer => by cases answer <;> rfl

/-- An accessor that is not wanted is not called. -/
theorem captureAnswer_unwanted {α : Type} {accessor : Except Panic (Option α)}
    {capture : α → AttributeMap → Attempt Mapper AttributeMap} {attributes : AttributeMap} :
    captureAnswer false accessor capture attributes = pure attributes := rfl

/-- What accessors answer is captured in the same way if it is alike as far as it is wanted. -/
theorem simulates_captureAnswer {α : Type} {wanted : Bool} {A : Option α → Option α → Prop}
    {accessor accessor' : Except Panic (Option α)}
    {capture : α → AttributeMap → Attempt Mapper AttributeMap}
    (haccessor : wanted → Alike A accessor accessor')
    (hcapture : ∀ answer answer', A answer answer' → ∀ attributes,
      Simulates R (captureSome capture answer attributes) (captureSome capture answer' attributes))
    (attributes : AttributeMap) :
    Simulates R (captureAnswer wanted accessor capture attributes)
      (captureAnswer wanted accessor' capture attributes) := by
  cases wanted with
  | false => exact simulates_pure attributes
  | true =>
    rw [captureAnswer_wanted, captureAnswer_wanted]
    exact (haccessor rfl).bind fun answer answer' h => hcapture answer answer' h attributes

/-- What is captured from an answer without any help of the mapper is the same. -/
theorem simulates_captureAnswer_pure {α : Type} {wanted : Bool}
    {accessor accessor' : Except Panic (Option α)} {capture : α → AttributeMap → AttributeMap}
    (haccessor : wanted → accessor = accessor') (attributes : AttributeMap) :
    Simulates R (captureAnswer wanted accessor (pure <| capture · ·) attributes)
      (captureAnswer wanted accessor' (pure <| capture · ·) attributes) := by
  refine simulates_captureAnswer (A := Eq) (fun hwanted => ?_) ?_ attributes
  · exact haccessor hwanted ▸ Alike.refl (fun _ => rfl) _
  · rintro answer _ rfl attributes
    cases answer <;> exact simulates_pure _

/-- The entries that are captured from a diagnostic context, if there is one. -/
def wantedEntries (settings : CaptureSettings) (table : Option ContextTable) :
    List (String × String) :=
  if settings.capturesAllContext then (table.map (·.entries)).getD []
  else settings.contextKeys.filterMap fun key => (table.bind (·.value? key)).map (key, ·)

theorem wantedEntries_none : wantedEntries settings none = [] := by
  rw [wantedEntries]
  split
  · rfl
  · simp

theorem wantedEntries_eq {table table' : Option ContextTable}
    (h : ContextTable.AgreeOn settings table table') :
    wantedEntries settings table = wantedEntries settings table' := by
  rw [wantedEntries, wantedEntries]
  rw [ContextTable.AgreeOn] at h
  split at h
  next hall => rw [if_pos hall, if_pos hall, h]
  next hall =>
    rw [if_neg hall, if_neg hall]
    exact List.filterMap_congr fun key hkey => by rw [h key hkey]

/-- Without a table nothing is written, just as with a table that has nothing wanted. -/
theorem captureSome_captureContext {m : Mapper} {table : Option ContextTable}
    {attributes : AttributeMap} :
    captureSome captureContext table attributes m =
      writeEntries contextKeysPlace (wantedEntries m.settings table) attributes m := by
  cases table with
  | some table => rfl
  | none =>
    rw [wantedEntries_none]
    rfl

/-- Without a key for markers nothing is written, whatever the marker is. -/
theorem captureSome_captureMarker {marker : Option String} {attributes : AttributeMap}
    (hkey : framework.markerKey = none) :
    captureSome (pure <| captureMarker framework · ·) marker attributes = pure attributes := by
  cases marker with
  | none => rfl
  | some marker => simp only [captureSome, captureMarker, hkey]

/-- Without a table nothing is written, just as with a table that lists nothing. -/
theorem captureSome_captureProperties {table : Option ContextTable} {attributes : AttributeMap} :
    captureSome (pure <| captureProperties · ·) table attributes =
      pure (attributes.insertMany
        (((table.map (·.entries)).getD []).map fun entry => (entry.1, .text entry.2))) := by
  cases table <;> rfl

include hR

theorem Steady.captureCommon {here : ThreadInfo} {event event' : Event}
    (h : event.AgreeOn framework settings event') (attributes : AttributeMap) :
    Simulates R (captureCommon here event attributes) (captureCommon here event' attributes) := by
  refine Simulates.get_bind fun m m' hm => ?_
  obtain ⟨⟨hframework, hsettings⟩, hframework', hsettings'⟩ := hR.serves hm
  simp only [hframework, hsettings, hframework', hsettings']
  -- One accessor after the other, in the order in which they are called.
  refine (simulates_captureAnswer_pure (fun _ => h.throwable) _).bind fun attributes => ?_
  refine (simulates_captureAnswer (fun _ => h.context) ?_ _).bind fun attributes => ?_
  · -- Only here does the mapper form keys, from the entries that are wanted of both tables.
    intro table table' htable attributes m m' hm
    obtain ⟨⟨-, hsettings⟩, -, hsettings'⟩ := hR.serves hm
    rw [captureSome_captureContext, captureSome_captureContext, hsettings, hsettings',
      wantedEntries_eq htable]
    exact simulates_writeEntries hR.contextKey _ attributes hm
  refine (simulates_captureAnswer_pure (fun hwanted => ?_) _).bind fun attributes => ?_
  · rw [h.thread hwanted]
  refine (simulates_captureAnswer_pure h.caller _).bind fun attributes => ?_
  refine (simulates_captureAnswer h.marker ?_ _).bind fun attributes => ?_
  · intro marker marker' hmarker attributes
    cases hkey : framework.markerKey with
    | none =>
      -- The markers may differ, but nothing is written of either.
      rw [captureSome_captureMarker hkey, captureSome_captureMarker hkey]
      exact simulates_pure attributes
    | some key =>
      rw [hmarker (by rw [hkey]; rfl)]
      cases marker' <;> exact simulates_pure _
  refine simulates_captureAnswer h.properties ?_ attributes
  intro table table' htable attributes
  rw [captureSome_captureProperties, captureSome_captureProperties, htable]
  exact simulates_pure _

/-! ## Mapping -/

/-- From mappers that a steady relation relates, events that agree are mapped to the same record or
end in the same panic, and the mappers stay related. -/
theorem Steady.map {here : ThreadInfo} {event event' : Event}
    (h : event.AgreeOn framework settings event') :
    Simulates R (Mapper.map here event) (Mapper.map here event') := by
  refine h.message.bind fun message message' hmessage => ?_
  refine (hR.captureMessage hmessage).bind fun (body, attributes) => ?_
  refine (hR.captureCommon h attributes).bind fun attributes => ?_
  rw [h.level, h.timestamp]
  refine (simulates_ofOutcome event'.level).bind fun level => ?_
  refine (simulates_ofOutcome event'.timestamp).bind fun timestamp => ?_
  refine Simulates.get_bind fun m m' hm => ?_
  obtain ⟨⟨hframework, -⟩, hframework', -⟩ := hR.serves hm
  rw [hframework, hframework']
  exact simulates_pure _

/-- The same holds of the attributes alone. -/
theorem Steady.collect {here : ThreadInfo} {event event' : Event}
    (h : event.AgreeOn framework settings event') :
    Simulates R (Mapper.collect here event) (Mapper.collect here event') := by
  refine h.message.bind fun message message' hmessage => ?_
  refine (hR.captureMessage hmessage).bind fun (body, attributes) => ?_
  exact hR.captureCommon h attributes

omit hR

/-- A record holds what was captured, and the rest of it is read off the accessors. -/
theorem map_eq_ok {here : ThreadInfo} {event : Event} {record : Record} {m m' : Mapper}
    (h : Mapper.map here event m = (.ok record, m')) :
    ∃ message body attributes attributes' m₁ level timestamp,
      event.message = .ok message ∧
      Mapper.captureMessage message m = (.ok (body, attributes), m₁) ∧
      Mapper.captureCommon here event attributes m₁ = (.ok attributes', m') ∧
      event.level = .ok level ∧
      event.timestamp = .ok timestamp ∧
      record =
        { body
          timestamp
          severity := level.bind fun level => m'.framework.ladder.severity? level.value
          severityText := level.map (·.name)
          attributes := attributes' } := by
  obtain ⟨message, hmessage, h⟩ := liftM_bind_eq_ok_iff.mp h
  obtain ⟨⟨body, attributes⟩, m₁, hbody, h⟩ := bind_eq_ok_iff.mp h
  obtain ⟨attributes', m₂, hcommon, h⟩ := bind_eq_ok_iff.mp h
  obtain ⟨level, hlevel, h⟩ := liftM_bind_eq_ok_iff.mp h
  obtain ⟨timestamp, htimestamp, h⟩ := liftM_bind_eq_ok_iff.mp h
  cases h
  exact ⟨message, body, attributes, attributes', m₁, level, timestamp, hmessage, hbody, hcommon,
    hlevel, htimestamp, rfl⟩

end Mapper

end Telemetry
