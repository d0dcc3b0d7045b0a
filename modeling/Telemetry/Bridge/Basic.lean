import Telemetry.CallDepth
import Telemetry.Mapper
import Telemetry.Sink

/-!
# Bridges

A `Bridge` takes events of all frameworks to one sink: it has a mapper for each framework, and it
remembers the loggers that the sink created.
-/

namespace Telemetry

/-- A way from log events to a sink. -/
structure Bridge where
  /-- The mapper of each framework. -/
  mapper : Framework → Mapper
  /-- The loggers by name. -/
  loggers : Cache String Logger := { capacity := Cache.defaultCapacity }
  /-- The sink. -/
  sink : Sink := {}

namespace Bridge

/-- The kind of call that captures an event. All frameworks share it, so that an event which one
framework hands to another is captured once. -/
def logRecord : CallKind := "opentelemetry.log-record"

/-- The name under which events of an unnamed logger are emitted. -/
def rootLoggerName : String := "ROOT"

/-- The name under which events of a logger are emitted. -/
def normalizeName : Option String → String
  | some name => if name.isEmpty then rootLoggerName else name
  | none => rootLoggerName

/-- A bridge in the making. -/
structure Draft where
  /-- The settings that are given, each in the place of its framework. -/
  settings : Vector (Option CaptureSettings) 4 := .replicate 4 none
  /-- The sink. -/
  sink : Sink

namespace Draft

/-- Gives the settings of a framework, instead of any that were given before. -/
def give (draft : Draft) (framework : Framework) (settings : CaptureSettings) : Draft :=
  { draft with settings := draft.settings.set framework.place (some settings) }

/-- Gives settings one after the other. -/
def giveAll (draft : Draft) (given : List (Framework × CaptureSettings)) : Draft :=
  given.foldl (fun (draft : Draft) (framework, settings) => draft.give framework settings) draft

/-- The mapper of a framework with the settings that are given, or else with those of the
environment. -/
def mapper (env : Environment) (framework : Framework) (given : Option CaptureSettings) :
    Reporting Mapper := do
  let settings ← given.getDM <|
    CaptureSettings.ofDraft <$> CaptureSettings.ofEnvironment env framework
  return .ofSettings framework settings

/-- Makes the mappers place by place. The bridge finds the mapper of a framework in its place. -/
def build (env : Environment) (draft : Draft) : Reporting Bridge := do
  let javaUtilLogging ← mapper env .javaUtilLogging draft.settings[0]
  let log4j1 ← mapper env .log4j1 draft.settings[1]
  let log4j2 ← mapper env .log4j2 draft.settings[2]
  let logback ← mapper env .logback draft.settings[3]
  let mappers := #v[javaUtilLogging, log4j1, log4j2, logback]
  return { sink := draft.sink, mapper := fun framework => mappers[framework.place] }

end Draft

/-- A bridge to a sink. Settings are given framework by framework, in the order of the list, and
frameworks for which none are given take theirs from the environment. -/
def build (env : Environment) (given : List (Framework × CaptureSettings)) (sink : Sink) :
    Reporting Bridge :=
  (Draft.giveAll { sink } given).build env

/-- The one-line description of the part that emits. -/
def describeEmitter (b : Bridge) : String :=
  Text.outlinePartly "RecordEmitter" [("cached_loggers", toString b.loggers.size)]

/-- The one-line description of a bridge. -/
def describe (b : Bridge) : String :=
  Text.outline "AppenderBridge"
    [("emitter", b.describeEmitter),
     ("mappers", Text.outlineList (Framework.all.map fun framework =>
       (b.mapper framework).describe))]

/-- The loggers as a place of a bridge. -/
def loggersPlace : Lens Bridge (Cache String Logger) where
  get b := b.loggers
  set loggers b := { b with loggers }

/-- The mapper of a framework as a place of a bridge. -/
def mapperPlace (framework : Framework) : Lens Bridge Mapper where
  get b := b.mapper framework
  set mapper b :=
    { b with mapper := fun other => if other = framework then mapper else b.mapper other }

end Bridge

end Telemetry
