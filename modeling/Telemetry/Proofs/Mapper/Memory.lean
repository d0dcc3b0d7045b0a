import Telemetry.Proofs.Cache.Memory
import Telemetry.Proofs.Mapper.Agreement

/-!
# What mappers remember

A mapper remembers attribute keys as it would form them anew (`Mapper.Faithful`), from its start and
through all that it maps, also if that panics. Faithful mappers of one framework with the same
settings map alike, whatever each of them remembers (`Mapper.simulates_map`).

Besides, what a record takes from its event alone: its severity (`Mapper.Faithful.severity_eq`), and
the panics that end a mapping (`Mapper.raises_of_map`).
-/

namespace Telemetry

open Attempt

namespace Mapper

variable {framework : Framework} {settings : CaptureSettings} {m : Mapper} {here : ThreadInfo}
  {event : Event}

/-- A mapper of the framework with the settings, which remembers keys as it would form them. -/
structure Faithful (framework : Framework) (settings : CaptureSettings) (m : Mapper) : Prop where
  serves : m.Serves framework settings
  contextKeys : m.contextKeys.Faithful framework.contextNamespace
  mapMessageKeys : m.mapMessageKeys.Faithful (some framework.mapMessageNamespace)

/-- A new mapper remembers nothing. -/
theorem faithful_ofSettings : (ofSettings framework settings).Faithful framework settings where
  serves := ⟨rfl, rfl⟩
  contextKeys := by
    cases framework <;> exact KeyCache.faithful_ofCapacity
  mapMessageKeys := KeyCache.faithful_ofCapacity

/-- Two faithful mappers of the framework with the settings. -/
def BothFaithful (framework : Framework) (settings : CaptureSettings) (m m' : Mapper) : Prop :=
  m.Faithful framework settings ∧ m'.Faithful framework settings

/-- What two faithful mappers remember makes no difference to the keys that they form. -/
theorem steady_faithful : Steady framework settings (BothFaithful framework settings) where
  serves h := ⟨h.1.serves, h.2.serves⟩
  contextKey raw m m' h := by
    obtain ⟨hkey, hkept⟩ := h.1.contextKeys.key raw
    obtain ⟨hkey', hkept'⟩ := h.2.contextKeys.key raw
    exact ⟨hkey.trans hkey'.symm, { h.1 with contextKeys := hkept },
      { h.2 with contextKeys := hkept' }⟩
  mapMessageKey raw m m' h := by
    obtain ⟨hkey, hkept⟩ := h.1.mapMessageKeys.key raw
    obtain ⟨hkey', hkept'⟩ := h.2.mapMessageKeys.key raw
    exact ⟨hkey.trans hkey'.symm, { h.1 with mapMessageKeys := hkept },
      { h.2 with mapMessageKeys := hkept' }⟩

/-- Two faithful mappers map an event alike, and stay faithful, also if they panic half way. -/
theorem simulates_map (here : ThreadInfo) (event : Event) :
    Simulates (BothFaithful framework settings) (Mapper.map here event) (Mapper.map here event) :=
  steady_faithful.map (event.agreeOn_refl framework settings)

theorem simulates_collect (here : ThreadInfo) (event : Event) :
    Simulates (BothFaithful framework settings)
      (Mapper.collect here event) (Mapper.collect here event) :=
  steady_faithful.collect (event.agreeOn_refl framework settings)

theorem Faithful.map (h : m.Faithful framework settings) (here : ThreadInfo) (event : Event) :
    (Mapper.map here event m).2.Faithful framework settings :=
  (simulates_map here event ⟨h, h⟩).2.1

theorem Faithful.collect (h : m.Faithful framework settings) (here : ThreadInfo) (event : Event) :
    (Mapper.collect here event m).2.Faithful framework settings :=
  (simulates_collect here event ⟨h, h⟩).2.1

/-- The severity of a record is that of the level of its event on the scale of the framework. -/
theorem Faithful.severity_eq (h : m.Faithful framework settings) {record : Record} {m' : Mapper}
    (hmap : Mapper.map here event m = (.ok record, m')) {level : Option Level}
    (hlevel : event.level = .ok level) :
    record.severity = level.bind fun level => framework.ladder.severity? level.value := by
  have hframework : m'.framework = framework := by
    have hfaithful := (h.map here event).serves.1
    rwa [hmap] at hfaithful
  obtain ⟨_, _, _, _, _, level', _, -, -, -, hlevel', -, rfl⟩ := map_eq_ok hmap
  obtain rfl : level = level' := Except.ok.inj (hlevel.symm.trans hlevel')
  rw [hframework]

end Mapper

/-! ## Panics of a mapping -/

/-- One of the accessors of the event panics with `panic`. -/
def Event.Raises (event : Event) (panic : Panic) : Prop :=
  event.loggerName = .error panic ∨ event.level = .error panic ∨ event.message = .error panic ∨
    event.timestamp = .error panic ∨ event.throwable = .error panic ∨ event.thread = .error panic ∨
    event.context = .error panic ∨ event.marker = .error panic ∨ event.caller = .error panic ∨
    event.properties = .error panic

theorem KeyCache.returns_key (raw : String) : Returns (KeyCache.key raw) := by
  refine returns_get.bind fun c => ?_
  split
  · refine Returns.bind (fun _ => ⟨_, rfl⟩) fun found => ?_
    cases found with
    | some key => exact returns_pure key
    | none => exact fun _ => ⟨_, rfl⟩
  · exact returns_pure raw

namespace Mapper

variable {here : ThreadInfo} {event : Event}

theorem returns_writeEntries (keys : Lens Mapper KeyCache) (entries : List (String × String))
    (attributes : AttributeMap) : Returns (writeEntries keys entries attributes) := by
  induction entries generalizing attributes with
  | nil => exact returns_pure attributes
  | cons entry rest ih => exact (KeyCache.returns_key entry.1).focus.bind fun key => ih _

theorem returns_captureContext (context : ContextTable) (attributes : AttributeMap) :
    Returns (captureContext context attributes) :=
  returns_get.bind fun _ => returns_writeEntries _ _ attributes

theorem returns_captureMessage (message : Option Message) : Returns (captureMessage message) := by
  match message with
  | none => exact returns_pure _
  | some (.text s) => exact returns_pure _
  | some (.map message) =>
    refine Returns.bind (returns_get.bind fun m => ?_) fun attributes => returns_pure _
    split
    · exact returns_writeEntries _ _ _
    · exact returns_pure _

/-- Capturing an answer adds no panic to those of the accessor. -/
theorem blames_captureAnswer {α : Type} {P : Panic → Prop} {wanted : Bool}
    {accessor : Except Panic (Option α)}
    {capture : α → AttributeMap → Attempt Mapper AttributeMap}
    (haccessor : ∀ panic, accessor = .error panic → P panic)
    (hcapture : ∀ a attributes, Returns (capture a attributes)) (attributes : AttributeMap) :
    Blames P (captureAnswer wanted accessor capture attributes) := by
  cases wanted with
  | false => exact (returns_pure attributes).blames
  | true =>
    rw [captureAnswer_wanted]
    refine (blames_liftM haccessor).bind fun answer => ?_
    cases answer with
    | none => exact (returns_pure attributes).blames
    | some a => exact (hcapture a attributes).blames

theorem blames_captureCommon (attributes : AttributeMap) :
    Blames event.Raises (captureCommon here event attributes) := by
  -- Only the accessors can panic; what is done with their answers returns.
  have hpure : ∀ attributes : AttributeMap, Returns (pure attributes : Attempt Mapper _) :=
    returns_pure
  refine returns_get.blames.bind fun m => ?_
  refine (blames_captureAnswer (fun _ h => ?_) (fun _ _ => hpure _) _).bind fun attributes => ?_
  · simp [Event.Raises, h]
  refine (blames_captureAnswer (fun _ h => ?_) returns_captureContext _).bind fun attributes => ?_
  · simp [Event.Raises, h]
  refine (blames_captureAnswer (fun _ h => ?_) (fun _ _ => hpure _) _).bind fun attributes => ?_
  · -- The running thread stands in if the event knows none, which hides no panic.
    cases hthread : event.thread <;> rw [hthread] at h <;> cases h
    simp [Event.Raises, hthread]
  refine (blames_captureAnswer (fun _ h => ?_) (fun _ _ => hpure _) _).bind fun attributes => ?_
  · simp [Event.Raises, h]
  refine (blames_captureAnswer (fun _ h => ?_) (fun _ _ => hpure _) _).bind fun attributes => ?_
  · simp [Event.Raises, h]
  refine blames_captureAnswer (fun _ h => ?_) (fun _ _ => hpure _) attributes
  simp [Event.Raises, h]

/-- A mapping panics only as one of the accessors of its event does. -/
theorem raises_of_map : Blames event.Raises (Mapper.map here event) := by
  refine (blames_liftM fun _ h => ?_).bind fun message => ?_
  · simp [Event.Raises, h]
  refine (returns_captureMessage message).blames.bind fun (body, attributes) => ?_
  refine (blames_captureCommon attributes).bind fun attributes => ?_
  refine (blames_liftM fun _ h => ?_).bind fun level => ?_
  · simp [Event.Raises, h]
  refine (blames_liftM fun _ h => ?_).bind fun timestamp => ?_
  · simp [Event.Raises, h]
  exact (returns_get.bind fun _ => returns_pure _).blames

end Mapper

end Telemetry
