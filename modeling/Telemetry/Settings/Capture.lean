import Telemetry.Settings.Environment
import Telemetry.Text.Outline

/-!
# Capture settings

What is captured from the events of one framework beyond the body, the time, the severity and the
exception. Settings come from the environment and are overridden by the host.
-/

namespace Telemetry

/-- Settings in the making, one by one. -/
structure CaptureDraft where
  /-- The name and number of the thread. -/
  thread : Bool := false
  /-- The diagnostic context: the keys to capture, or a single star for all of them. -/
  contextKeys : List String := []
  /-- The name of the marker. -/
  marker : Bool := false
  /-- The place that logged the event. -/
  code : Bool := false
  /-- The entries of a map message. -/
  mapMessage : Bool := false
  /-- The properties of the logger context. -/
  loggerContext : Bool := false
deriving DecidableEq, Repr

/-- The key that stands for all keys of the diagnostic context, if it stands alone. -/
def CaptureDraft.star : String := "*"

/-- Whether every entry of the diagnostic context is to be captured. -/
def CaptureDraft.wantsAllContext (draft : CaptureDraft) : Bool :=
  match draft.contextKeys with
  | [only] => only = star
  | _ => false

/-- The star has to stand alone. -/
theorem CaptureDraft.wantsAllContext_iff {draft : CaptureDraft} :
    draft.wantsAllContext = true ↔ draft.contextKeys = ["*"] := by
  rw [wantsAllContext]
  split
  next only honly => rw [honly, decide_eq_true_iff, List.cons.injEq, and_iff_left rfl, star]
  next hmany => exact iff_of_false Bool.false_ne_true (hmany _)

/-- What is captured from an event beyond what is always captured. Whether the whole diagnostic
context is captured is settled once and for all when the settings are made. -/
structure CaptureSettings extends CaptureDraft where
  /-- Whether every entry of the diagnostic context is captured. -/
  capturesAllContext : Bool := toCaptureDraft.wantsAllContext
  /-- It is just if the star stands alone. -/
  capturesAllContext_iff : capturesAllContext = true ↔ contextKeys = ["*"] := by
    exact CaptureDraft.wantsAllContext_iff
deriving DecidableEq, Repr

/-- A setting made by the host. -/
inductive CaptureOverride where
  /-- Whether the thread is captured. -/
  | thread (on : Bool)
  /-- Which keys of the diagnostic context are captured. -/
  | contextKeys (keys : List String)
  /-- Whether the marker is captured. -/
  | marker (on : Bool)
  /-- Whether the call site is captured. -/
  | code (on : Bool)
  /-- Whether the entries of map messages are captured. -/
  | mapMessage (on : Bool)
  /-- Whether the properties of the logger context are captured. -/
  | loggerContext (on : Bool)
deriving DecidableEq, Repr

namespace CaptureSettings

namespace Name

/-- The setting of the thread. -/
def thread : String := "experimental-log-attributes"
/-- The setting of the diagnostic context. -/
def contextKeys : String := "experimental.capture-mdc-attributes"
/-- The setting of the marker. -/
def marker : String := "experimental.capture-marker-attribute"
/-- The setting of the call site. -/
def code : String := "experimental.capture-code-attributes"
/-- The setting of map messages. -/
def mapMessage : String := "experimental.capture-map-message-attributes"
/-- The setting of the logger context. -/
def loggerContext : String := "experimental.capture-logger-context-attributes"

/-- The names of all settings. -/
def all : List String := [thread, contextKeys, marker, code, mapMessage, loggerContext]

end Name

/-- The draft that the environment makes for a framework. Unset and unusable variables leave their
setting off. -/
def ofEnvironment (env : Environment) (framework : Framework) : Reporting CaptureDraft := do
  let name := Setting.name framework.instrumentation
  let flag := fun setting => env.readBool (name setting) false
  let thread ← flag Name.thread
  let contextKeys ← env.readList? (name Name.contextKeys)
  let marker ← flag Name.marker
  let code ← flag Name.code
  let mapMessage ← flag Name.mapMessage
  let loggerContext ← flag Name.loggerContext
  return { thread, contextKeys := contextKeys.getD [], marker, code, mapMessage, loggerContext }

/-- The settings that a draft leads to. -/
def ofDraft (draft : CaptureDraft) : CaptureSettings where
  toCaptureDraft := draft

/-- The one-line description of the settings. -/
def describe (s : CaptureSettings) : String :=
  Text.outline "BridgeConfig"
    [("capture_experimental_attributes", toString s.thread),
     ("capture_context_data_attributes", Text.outlineList (s.contextKeys.map Text.quote)),
     ("capture_all_context_data_attributes", toString s.capturesAllContext),
     ("capture_marker_attribute", toString s.marker),
     ("capture_code_attributes", toString s.code),
     ("capture_map_message_attributes", toString s.mapMessage),
     ("capture_logger_context_attributes", toString s.loggerContext)]

end CaptureSettings

namespace CaptureDraft

/-- Overrides one setting. -/
def apply (draft : CaptureDraft) : CaptureOverride → CaptureDraft
  | .thread on => { draft with thread := on }
  | .contextKeys keys => { draft with contextKeys := keys }
  | .marker on => { draft with marker := on }
  | .code on => { draft with code := on }
  | .mapMessage on => { draft with mapMessage := on }
  | .loggerContext on => { draft with loggerContext := on }

/-- Overrides settings one after the other, and makes the settings of what this leaves. -/
def applyAll (draft : CaptureDraft) (overrides : List CaptureOverride) : CaptureSettings :=
  .ofDraft (overrides.foldl apply draft)

end CaptureDraft

end Telemetry
