import Telemetry.Attribute.Key
import Telemetry.Event.Basic
import Telemetry.Record
import Telemetry.Settings.Capture

/-!
# Mapping events to records

A `Mapper` turns the events of a framework into records, as its settings say. It remembers the
attribute keys it has formed. The accessors of an event are called in a fixed order, each only when
its data is wanted, and a panic of one of them abandons the mapping.
-/

namespace Telemetry

/-- What maps the events of one framework. -/
structure Mapper where
  /-- The framework. -/
  framework : Framework
  /-- What is captured. -/
  settings : CaptureSettings
  /-- The keys of the diagnostic context. -/
  contextKeys : KeyCache
  /-- The keys of map messages. -/
  mapMessageKeys : KeyCache

namespace Mapper

open Attribute

/-- The mapper of a framework, with nothing remembered. -/
def ofSettings (framework : Framework) (settings : CaptureSettings) : Mapper where
  framework := framework
  settings := settings
  contextKeys := match framework.contextNamespace with
    | some scope => .ofScope scope
    | none => .verbatim
  mapMessageKeys := .ofScope framework.mapMessageNamespace

/-- The one-line description of a mapper. -/
def describe (m : Mapper) : String :=
  Text.outline "EventMapper"
    [("framework", m.framework.describe), ("config", m.settings.describe),
     ("context_keys", m.contextKeys.describe), ("map_message_keys", m.mapMessageKeys.describe)]

/-- The keys of the diagnostic context as a place of a mapper. -/
def contextKeysPlace : Lens Mapper KeyCache where
  get m := m.contextKeys
  set contextKeys m := { m with contextKeys }

/-- The keys of map messages as a place of a mapper. -/
def mapMessageKeysPlace : Lens Mapper KeyCache where
  get m := m.mapMessageKeys
  set mapMessageKeys m := { m with mapMessageKeys }

/-- Writes entries of a table under the keys that `keys` forms. -/
def writeEntries (keys : Lens Mapper KeyCache) :
    List (String × String) → AttributeMap → Attempt Mapper AttributeMap
  | [], attributes => pure attributes
  | (raw, value) :: rest, attributes => do
    let key ← Attempt.focus keys (KeyCache.key raw)
    writeEntries keys rest (attributes.insertText key value)

/-- Captures the entries of a map message, without the one that is its text. -/
def captureMapMessage (message : MapMessage) (attributes : AttributeMap) :
    Attempt Mapper AttributeMap := do
  if (← get).settings.mapMessage then
    let captured := message.entries.toList.filter fun entry =>
      !(message.isPromoting && entry.1 = MapMessage.textKey)
    writeEntries mapMessageKeysPlace captured attributes
  else pure attributes

/-- Captures an exception. -/
def captureThrowable (throwable : Throwable) (attributes : AttributeMap) : AttributeMap :=
  attributes
    |>.insertText Key.exceptionType throwable.typeName
    |>.insertText? Key.exceptionMessage throwable.message
    |>.insertText Key.exceptionStacktrace throwable.stackTrace

/-- Captures the diagnostic context: all that it lists, or the wanted keys that it has. -/
def captureContext (context : ContextTable) (attributes : AttributeMap) :
    Attempt Mapper AttributeMap := do
  let settings := (← get).settings
  let captured :=
    if settings.capturesAllContext then context.entries
    else settings.contextKeys.filterMap fun key => (context.value? key).map (key, ·)
  writeEntries contextKeysPlace captured attributes

/-- Captures a thread, as far as it is known. Its number must fit into a signed 64-bit integer. -/
def captureThread (thread : ThreadInfo) (attributes : AttributeMap) : AttributeMap :=
  let attributes := attributes.insertText? Key.threadName thread.name
  match thread.id.filter (· < Nat.pow 2 63) with
  | some id => attributes.insert Key.threadId (.int id)
  | none => attributes

/-- Captures the place that logged the event, as far as it is known. -/
def captureCaller (frame : CallerFrame) (attributes : AttributeMap) : AttributeMap :=
  let attributes := attributes
    |>.insertText? Key.codeFilepath frame.file
    |>.insertText Key.codeNamespace frame.className
    |>.insertText Key.codeFunction frame.methodName
  if 0 < frame.line then attributes.insert Key.codeLine (.int frame.line) else attributes

/-- Captures a marker, in a framework that has a key for it. -/
def captureMarker (framework : Framework) (marker : String) (attributes : AttributeMap) :
    AttributeMap :=
  match framework.markerKey with
  | some key => attributes.insertText key marker
  | none => attributes

/-- Captures the properties of the logger context, under their own keys. -/
def captureProperties (properties : ContextTable) (attributes : AttributeMap) : AttributeMap :=
  attributes.insertMany (properties.entries.map fun entry => (entry.1, .text entry.2))

/-- Captures what an accessor answers, if it is wanted. An accessor whose data is not wanted is not
called, so that it cannot panic either. -/
def captureAnswer {α : Type} (wanted : Bool) (accessor : Except Panic (Option α))
    (capture : α → AttributeMap → Attempt Mapper AttributeMap) (attributes : AttributeMap) :
    Attempt Mapper AttributeMap := do
  if wanted then
    match ← accessor with
    | some a => capture a attributes
    | none => pure attributes
  else pure attributes

/-- Captures what is captured of every event, whatever its message. The thread `here` is the one
that captures. -/
def captureCommon (here : ThreadInfo) (event : Event) (attributes : AttributeMap) :
    Attempt Mapper AttributeMap := do
  let { framework, settings, .. } ← get
  let thread := event.thread.map fun thread => some (thread.getD here)
  let attributes ← captureAnswer true event.throwable (pure <| captureThrowable · ·) attributes
  let attributes ← captureAnswer true event.context captureContext attributes
  let attributes ← captureAnswer settings.thread thread (pure <| captureThread · ·) attributes
  let attributes ← captureAnswer settings.code event.caller (pure <| captureCaller · ·) attributes
  let attributes ←
    captureAnswer settings.marker event.marker (pure <| captureMarker framework · ·) attributes
  captureAnswer settings.loggerContext event.properties (pure <| captureProperties · ·) attributes

/-- The text of a message, and the attributes that its entries give. -/
def captureMessage : Option Message → Attempt Mapper (Option String × AttributeMap)
  | some (.text text) => pure (some text, .empty)
  | some (.map message) => do
    let attributes ← captureMapMessage message .empty
    pure (message.text?, attributes)
  | none => pure (none, .empty)

/-- The record of an event. -/
def map (here : ThreadInfo) (event : Event) : Attempt Mapper Record := do
  let (body, attributes) ← captureMessage (← event.message)
  let attributes ← captureCommon here event attributes
  let level ← event.level
  let timestamp ← event.timestamp
  let ladder := (← get).framework.ladder
  return {
    body
    timestamp
    severity := level.bind fun level => ladder.severity? level.value
    severityText := level.map (·.name)
    attributes }

/-- The attributes of an event, without the rest of its record. -/
def collect (here : ThreadInfo) (event : Event) : Attempt Mapper AttributeMap := do
  let (_, attributes) ← captureMessage (← event.message)
  captureCommon here event attributes

end Mapper

end Telemetry
