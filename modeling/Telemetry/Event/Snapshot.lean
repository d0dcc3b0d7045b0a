import Telemetry.Event.Basic
import Telemetry.Message.Pattern

/-!
# Snapshots of framework events

What each framework hands to an appender, as plain data, and the log event that it is. The
accessors of a snapshot never panic.
-/

namespace Telemetry

/-- A `java.util.logging` record. It has no thread of its own. -/
structure JavaUtilRecord where
  /-- The name of the logger. -/
  loggerName : Option String := none
  /-- The level. -/
  level : Option Level := none
  /-- The message, before parameters are put into it. -/
  message : Option String := none
  /-- The parameters of the message. -/
  parameters : List String := []
  /-- The time, in milliseconds. -/
  millis : Int
  /-- The exception. -/
  throwable : Option Throwable := none
deriving Repr

/-- The event of a `java.util.logging` record. -/
def JavaUtilRecord.event (r : JavaUtilRecord) : Event where
  framework := .javaUtilLogging
  loggerName := .ok r.loggerName
  level := .ok r.level
  message := .ok (r.message.map fun pattern => .text (formatMessage pattern r.parameters))
  timestamp := .ok (some (.ofMillis r.millis))
  throwable := .ok r.throwable

/-- A call of a Log4j 1.2 category, which knows neither its time nor its thread. -/
structure Log4j1Call where
  /-- The name of the category. -/
  category : String
  /-- The priority. -/
  priority : Option Level := none
  /-- The message. -/
  message : Option String := none
  /-- The exception. -/
  throwable : Option Throwable := none
  /-- The diagnostic context of the calling thread, if it was taken along. -/
  context : Option ContextTable := none

/-- The event of a Log4j 1.2 call. -/
def Log4j1Call.event (c : Log4j1Call) : Event where
  framework := .log4j1
  loggerName := .ok (some c.category)
  level := .ok c.priority
  message := .ok (c.message.map .text)
  throwable := .ok c.throwable
  context := .ok c.context

/-- A Log4j 2 event. Appenders may run on another thread than the one that logged. -/
structure Log4j2Event where
  /-- The name of the logger. -/
  loggerName : String
  /-- The level. -/
  level : Option Level := none
  /-- The marker. -/
  marker : Option String := none
  /-- The message. -/
  message : Option Message := none
  /-- The exception. -/
  throwable : Option Throwable := none
  /-- The context data. -/
  context : ContextTable := .ofList []
  /-- The thread that logged the event. -/
  thread : ThreadInfo
  /-- The time. -/
  timestamp : Option Timestamp := none

/-- The log event that a Log4j 2 event is. -/
def Log4j2Event.event (e : Log4j2Event) : Event where
  framework := .log4j2
  loggerName := .ok (some e.loggerName)
  level := .ok e.level
  message := .ok e.message
  timestamp := .ok e.timestamp
  throwable := .ok e.throwable
  thread := .ok (some e.thread)
  context := .ok (some e.context)
  marker := .ok e.marker

/-- A Logback event. Appenders may run on another thread than the one that logged. -/
structure LogbackEvent where
  /-- The name of the logger. -/
  loggerName : String
  /-- The level. -/
  level : Option Level := none
  /-- The message, with its arguments in place. -/
  message : String := ""
  /-- The time, in milliseconds. -/
  millis : Int
  /-- The exception. -/
  throwable : Option Throwable := none
  /-- The diagnostic context. -/
  context : ContextTable := .ofList []
  /-- The thread that logged the event. -/
  thread : ThreadInfo
  /-- The frames of the call, from the innermost outwards. -/
  callers : List CallerFrame := []
  /-- The marker. -/
  marker : Option String := none
  /-- The properties of the logger context. -/
  properties : ContextTable := .ofList []

/-- The log event that a Logback event is. -/
def LogbackEvent.event (e : LogbackEvent) : Event where
  framework := .logback
  loggerName := .ok (some e.loggerName)
  level := .ok e.level
  message := .ok (some (.text e.message))
  timestamp := .ok (some (.ofMillis e.millis))
  throwable := .ok e.throwable
  thread := .ok (some e.thread)
  context := .ok (some e.context)
  marker := .ok e.marker
  caller := .ok e.callers.head?
  properties := .ok (some e.properties)

/-- A Logback thread with a number that may be negative, which means that it is not known. -/
def ThreadInfo.ofSigned (name : String) (id : Int) : ThreadInfo where
  name := some name
  id := if id < 0 then none else some id.toNat

end Telemetry
