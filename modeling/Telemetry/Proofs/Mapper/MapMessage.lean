import Telemetry.Proofs.Mapper.Keys

/-!
# Map messages

A map message without a format gives one of its entries as the text of the record, and the others as
attributes; with a format, all of them are attributes. Their keys are in a namespace where nothing
else is written but what the host chooses to write there. So nothing of the message is lost or shown
twice, and its entries can be read back from a record.

* `MapMessage.readBack?`: an entry as it is read back.
* `Event.Apart`: the host chooses no key in the namespace of map messages.
* `Event.Apart.inMapMessage_record`: then the attributes in the namespace are what the message
  writes.

Main statement: `Mapper.map_message_kept`.
-/

namespace Telemetry

open Attribute
open AttributeMap (consistent_of_nodup lookup_eq_some_iff nodup_keys_toList)

/-- The text that a value is. -/
def Attribute.Value.text? : Value → Option String
  | .text s => some s
  | _ => none

/-! ## Reading back -/

namespace MapMessage

variable {message : MapMessage}

/-- A message promotes an entry to its text if its format is absent or empty. -/
theorem isPromoting_iff :
    message.isPromoting ↔ message.format = none ∨ message.format = some "" := by
  rw [isPromoting]
  rcases message.format with _ | format <;> simp

/-- The text of a message is its format or the entry that it promotes, if that is not empty. -/
theorem text?_eq : message.text? =
    (if message.isPromoting then message.get? "message" else message.format).filter
      fun text => ¬ text = "" := by
  have hempty : (fun text : String => !text.isEmpty) = fun text => decide (¬ text = "") := by
    funext text
    rw [decide_not, Bool.eq_iff_iff.mpr (String.isEmpty_iff.trans decide_eq_true_iff.symm)]
  rw [text?, hempty]
  rfl

/-- The value of an entry as it is read back from a record, given whether the message promoted an
entry, from the text of the record and the attributes in the namespace of map messages. -/
def readBack? (scope : String) (promoting : Bool) (body : Option String)
    (attributes : List (String × Value)) (key : String) : Option String :=
  if promoting ∧ key = textKey then body
  else (attributes.lookup (KeyCache.qualify scope key)).bind Value.text?

end MapMessage

namespace Event

variable {framework : Framework} {settings : CaptureSettings} {here : ThreadInfo} {event : Event}
  {message : MapMessage} {write : String × Value} {key : String}

/-! ## The writes of a message -/

theorem nodup_keys_mapMessageWrites : ((mapMessageWrites framework message).map Prod.fst).Nodup :=
  nodup_keys_textWrites (KeyCache.form_injective _) <|
    (nodup_keys_toList message.entries).sublist (List.filter_sublist.map Prod.fst)

/-- An entry is written unless it is promoted to the text. -/
theorem mem_mapMessageWrites_iff {value : Value} :
    (KeyCache.qualify framework.mapMessageNamespace key, value) ∈
        mapMessageWrites framework message ↔
      ¬ (message.isPromoting ∧ key = MapMessage.textKey) ∧
        (message.get? key).map Value.text = some value := by
  rw [mapMessageWrites, textWrites, List.mem_map, Option.map_eq_some_iff]
  simp only [List.mem_filter, decide_eq_true_iff, Prod.exists, Prod.mk.injEq,
    Std.TreeMap.mem_toList_iff_getElem?_eq_some]
  constructor
  · rintro ⟨entry, text, ⟨hget, hkept⟩, hkey, hvalue⟩
    obtain rfl : entry = key := KeyCache.form_injective (some _) hkey
    exact ⟨hkept, text, hget, hvalue⟩
  · rintro ⟨hkept, text, hget, hvalue⟩
    exact ⟨key, text, ⟨hget, hkept⟩, rfl, hvalue⟩

theorem within_of_mem_mapMessageWrites (h : write ∈ mapMessageWrites framework message) :
    KeyCache.Within framework.mapMessageNamespace write.1 := by
  obtain ⟨entry, -, rfl⟩ := List.mem_map.mp h
  exact KeyCache.within_iff.mpr ⟨entry.1, rfl⟩

/-- An entry that is not promoted has a write of its own. -/
theorem lookup_mapMessageWrites (h : ¬ (message.isPromoting ∧ key = MapMessage.textKey)) :
    (mapMessageWrites framework message).lookup
        (KeyCache.qualify framework.mapMessageNamespace key) =
      (message.get? key).map Value.text := by
  refine Option.ext fun value => ?_
  rw [lookup_eq_some_iff (consistent_of_nodup nodup_keys_mapMessageWrites),
    mem_mapMessageWrites_iff]
  exact and_iff_right h

/-- Every entry is read back from the text and the writes of a message, but for an empty text that
was promoted. -/
theorem readBack?_mapMessageWrites (key : String) :
    MapMessage.readBack? framework.mapMessageNamespace message.isPromoting message.text?
        (mapMessageWrites framework message) key =
      (message.get? key).filter fun value =>
        ¬ (message.isPromoting ∧ key = MapMessage.textKey ∧ value = "") := by
  rw [MapMessage.readBack?]
  split_ifs with h
  · obtain ⟨hpromoting, rfl⟩ := h
    rw [MapMessage.text?_eq, if_pos hpromoting]
    simp [hpromoting, MapMessage.textKey]
  · rw [lookup_mapMessageWrites h]
    rcases message.get? key with _ | value
    · rfl
    · have hkept : ¬ (message.isPromoting ∧ key = MapMessage.textKey ∧ value = "") :=
        fun hdropped => h ⟨hdropped.1, hdropped.2.1⟩
      rw [Option.filter_some, if_pos (decide_eq_true hkept)]
      rfl

/-! ## The namespace of map messages -/

/-- No key that the host chooses freely lies in the namespace of map messages. -/
def Apart (framework : Framework) (settings : CaptureSettings) (event : Event) : Prop :=
  ∀ write ∈ event.verbatimWrites framework settings,
    ¬ KeyCache.Within framework.mapMessageNamespace write.1

instance (framework : Framework) (settings : CaptureSettings) (event : Event) :
    Decidable (event.Apart framework settings) :=
  inferInstanceAs (Decidable (∀ write ∈ _, _))

/-- The attributes in the namespace of map messages. -/
def inMapMessage (framework : Framework) (attributes : AttributeMap) : List (String × Value) :=
  attributes.toList.filter fun entry => KeyCache.Within framework.mapMessageNamespace entry.1

/-- What is written after the message stays out of the namespace of map messages. -/
theorem Apart.not_within (hevent : event.Apart framework settings)
    (hwrite : write ∈ (event.blocks framework settings here).tail.flatten) :
    ¬ KeyCache.Within framework.mapMessageNamespace write.1 := by
  rcases key_of_mem_tail hwrite with hkey | hmarker | ⟨scope, hscope, hwithin⟩ | hverbatim
  · have hnamed : ∀ key ∈ Key.ofEvents, ¬ KeyCache.Within "log4j.map_message" key := by decide
    exact hnamed write.1 hkey
  · have hmarkers : ∀ key ∈ framework.markerKey, ¬ KeyCache.Within "log4j.map_message" key := by
      cases framework <;> decide
    exact hmarkers write.1 hmarker
  · -- Of two namespaces that share a key, one begins with the other.
    have hscopes : ∀ scope ∈ framework.contextNamespace,
        ¬ ((scope ++ ".").toList <+: ("log4j.map_message" ++ ".").toList) ∧
        ¬ (("log4j.map_message" ++ ".").toList <+: (scope ++ ".").toList) := by
      cases framework <;> decide
    obtain ⟨hleft, hright⟩ := hscopes scope hscope
    exact fun hmap => (List.prefix_or_prefix_of_prefix hwithin hmap).elim hleft hright
  · exact hevent write hverbatim

/-- The attributes of a record that are in the namespace of map messages are those of its message,
if they are wanted. -/
theorem Apart.inMapMessage_record (hevent : event.Apart framework settings)
    (hmessage : event.message = .ok (some (.map message))) :
    inMapMessage framework (event.record framework settings here).attributes =
      if settings.mapMessage then mapMessageWrites framework message else [] := by
  have hanswer : answer event.message = some (.map message) := answer_eq_some_iff.mpr hmessage
  have hblocks : (event.blocks framework settings here).flatten =
      (if settings.mapMessage then mapMessageWrites framework message else []) ++
        (event.blocks framework settings here).tail.flatten := by
    rw [blocks, hanswer]
    rfl
  have hout : ∀ write ∈ (event.blocks framework settings here).tail.flatten,
      decide (KeyCache.Within framework.mapMessageNamespace write.1) = false :=
    fun write hwrite => decide_eq_false (hevent.not_within hwrite)
  rw [inMapMessage, record, hblocks, AttributeMap.insertMany_append]
  refine (AttributeMap.filter_insertMany (KeyCache.Within _ ·) hout).trans ?_
  split_ifs
  · rw [AttributeMap.toList_insertMany_of_nodup nodup_keys_mapMessageWrites, List.filter_eq_self]
    exact fun write hwrite => decide_eq_true (within_of_mem_mapMessageWrites hwrite)
  · rfl

/-- The text that a message promotes is not an attribute. -/
theorem Apart.textKey_not_mem (hevent : event.Apart framework settings)
    (hmessage : event.message = .ok (some (.map message))) (hpromoting : message.isPromoting) :
    KeyCache.qualify framework.mapMessageNamespace MapMessage.textKey ∉
      (event.record framework settings here).attributes.toList.map Prod.fst := by
  intro hkey
  obtain ⟨⟨_, value⟩, hentry, rfl⟩ := List.mem_map.mp hkey
  -- An attribute under its key would be one of those of the message.
  have hinside : (KeyCache.qualify framework.mapMessageNamespace MapMessage.textKey, value) ∈
      inMapMessage framework (event.record framework settings here).attributes :=
    List.mem_filter.mpr ⟨hentry, decide_eq_true (KeyCache.within_iff.mpr ⟨_, rfl⟩)⟩
  rw [hevent.inMapMessage_record hmessage, List.mem_ite_nil_right] at hinside
  exact (mem_mapMessageWrites_iff.mp hinside.2).1 ⟨hpromoting, rfl⟩

theorem body_record (hmessage : event.message = .ok (some (.map message))) :
    (event.record framework settings here).body = message.text? := by
  rw [record, hmessage, answer_ok]
  rfl

end Event

namespace Mapper

open Event

/-- Of a map message nothing is lost, and nothing is shown twice. The text of the record is the
format of the message, or the entry that it promotes, whatever the settings are. If the host chooses
no key in the namespace of map messages, then the attributes in it are the entries of the message
without the one that is promoted, or none if they are not wanted. All entries can be read back from
the text and these attributes, but for an empty text that was promoted. -/
theorem map_message_kept (framework : Framework) (settings : CaptureSettings) (uses : List Use)
    (here : ThreadInfo) (event : Event) {message : MapMessage}
    (hmessage : event.message = .ok (some (.map message))) :
    let m := (ofSettings framework settings).used uses
    let scope := framework.mapMessageNamespace
    (message.isPromoting ↔ message.format = none ∨ message.format = some "") ∧
    ((∀ panic, ¬ event.Raises panic) →
      ∃ record m', Mapper.map here event m = (.ok record, m')) ∧
    (∀ record m', Mapper.map here event m = (.ok record, m') →
      collect here event m = (.ok record.attributes, m') ∧
      record.body = (if message.isPromoting then message.get? "message" else message.format).filter
        fun text => ¬ text = "") ∧
    (event.Apart framework settings →
      (∀ attributes m', collect here event m = (.ok attributes, m') →
        inMapMessage framework attributes =
            (if settings.mapMessage then mapMessageWrites framework message else []) ∧
          (message.isPromoting →
            KeyCache.qualify scope "message" ∉ attributes.toList.map Prod.fst)) ∧
      (settings.mapMessage → ∀ record m', Mapper.map here event m = (.ok record, m') → ∀ key,
        MapMessage.readBack? scope message.isPromoting record.body
            (inMapMessage framework record.attributes) key =
          (message.get? key).filter fun value =>
            ¬ (message.isPromoting ∧ key = "message" ∧ value = ""))) := by
  intro m scope
  have hm : m.Faithful framework settings := faithful_ofSettings.used uses
  refine ⟨MapMessage.isPromoting_iff, fun hevent => ?_, fun record m' hmap => ?_,
    fun hapart => ⟨fun attributes m' hcollect => ?_, fun hwanted record m' hmap key => ?_⟩⟩
  · obtain ⟨record, m', hmap, -⟩ := returns_of_not_raises hm here hevent
    exact ⟨record, m', hmap⟩
  · obtain ⟨hrecord, hcollect⟩ := eq_of_map hm hmap
    exact ⟨hcollect, by rw [hrecord, body_record hmessage, MapMessage.text?_eq]⟩
  · rw [eq_of_collect hm hcollect]
    exact ⟨hapart.inMapMessage_record hmessage, hapart.textKey_not_mem hmessage⟩
  · obtain ⟨rfl, -⟩ := eq_of_map hm hmap
    rw [body_record hmessage, hapart.inMapMessage_record hmessage, if_pos hwanted]
    exact readBack?_mapMessageWrites key

/-- An event with a map message without a format, and with keys that are next to the namespace of
map messages. -/
def formless : Event where
  framework := .log4j2
  message := .ok (some (.map (({} : MapMessage).insert "user" "ada"
    |>.insert "message" "hello" |>.insert "" "blank")))
  context := .ok (some (.ofList [("log4j.map_message", "near"), ("user", "bob")]))
  properties := .ok (some (.ofList [("log4j.map_messages.user", "eve")]))

theorem formless_kept :
    let settings : CaptureSettings :=
      { contextKeys := ["*"], mapMessage := true, loggerContext := true }
    formless.Apart .log4j2 settings ∧
    ∃ record m', Mapper.map {} formless (ofSettings .log4j2 settings) = (.ok record, m') ∧
      record.body = some "hello" ∧
      inMapMessage .log4j2 record.attributes =
        [("log4j.map_message.", .text "blank"), ("log4j.map_message.user", .text "ada")] ∧
      "log4j.map_message.message" ∉ record.attributes.toList.map Prod.fst ∧
      (["message", "user", "", "absent"].map fun key =>
        MapMessage.readBack? "log4j.map_message" true record.body
          (inMapMessage .log4j2 record.attributes) key) =
            [some "hello", some "ada", some "blank", none] := by
  intro settings
  have hapart : formless.Apart .log4j2 settings := by decide
  obtain ⟨-, hanswers, hrecord, hattributes⟩ :=
    map_message_kept .log4j2 settings [] {} formless rfl
  obtain ⟨record, m', hmap⟩ := hanswers (by simp [Event.Raises, formless])
  obtain ⟨hcollect, hbody⟩ := hrecord record m' hmap
  obtain ⟨hkept, hread⟩ := hattributes hapart
  obtain ⟨hinside, houtside⟩ := hkept record.attributes m' hcollect
  refine ⟨hapart, record, m', hmap, hbody, hinside, houtside rfl, ?_⟩
  exact List.map_congr_left fun key _ => hread rfl record m' hmap key

end Mapper

end Telemetry
