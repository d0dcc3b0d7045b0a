import Telemetry.Attempt
import Telemetry.Framework
import Telemetry.Message.Structured
import Telemetry.Timestamp

/-!
# Log events

A log event as a capturing instrumentation sees it: a framework and a set of accessors, each of
which gives a piece of data, or nothing, or panics. Missing data is left out of a record and is
never an error.
-/

namespace Telemetry

/-- An exception attached to an event. -/
structure Throwable where
  /-- The full name of its type. -/
  typeName : String
  /-- Its message, if it has one. -/
  message : Option String
  /-- Its printed stack trace. -/
  stackTrace : String
deriving DecidableEq, Repr

/-- The exception of an error with a chain of causes. Its stack trace lists the chain. -/
def Throwable.ofError (typeName message : String) (causes : List String) : Throwable where
  typeName := typeName
  message := some message
  stackTrace := causes.foldl (· ++ "\nCaused by: " ++ ·) (typeName ++ ": " ++ message)

/-- The innermost frame of the place that logged an event. -/
structure CallerFrame where
  /-- The source file, if it is known. -/
  file : Option String
  /-- The class or module. -/
  className : String
  /-- The function. -/
  methodName : String
  /-- The line; zero or negative if it is not known. -/
  line : Int
deriving DecidableEq, Repr

/-- The name and number of a thread, as far as they are known. -/
structure ThreadInfo where
  /-- The name of the thread. -/
  name : Option String := none
  /-- The number of the thread. -/
  id : Option Nat := none
deriving DecidableEq, Repr

/-- A table of a host, such as a diagnostic context. It answers for single keys and lists its
entries, in an order of its own. Neither panics: of an event, it is an accessor that may panic, and
not what it answers. -/
structure ContextTable where
  /-- The value of a key. -/
  value? : String → Option String
  /-- The entries, in the order in which the table lists them. -/
  entries : List (String × String)

namespace ContextTable

/-- The table that a map is, listed by key. -/
def ofMap (m : Std.TreeMap String String) : ContextTable where
  value? key := m[key]?
  entries := m.toList

/-- The table that maps each key to the last value paired with it. -/
def ofList (pairs : List (String × String)) : ContextTable :=
  ofMap (pairs.foldl (fun m pair => m.insert pair.1 pair.2) ∅)

/-- The number of entries. -/
def size (t : ContextTable) : Nat := t.entries.length

/-- Whether the table has no entry. -/
def isEmpty (t : ContextTable) : Bool := t.entries.isEmpty

end ContextTable

/-- A log event, given by what its accessors answer. -/
structure Event where
  /-- The framework that the event comes from. -/
  framework : Framework
  /-- The name of the logger. -/
  loggerName : Except Panic (Option String) := .ok none
  /-- The level. -/
  level : Except Panic (Option Level) := .ok none
  /-- The message. -/
  message : Except Panic (Option Message) := .ok none
  /-- The time at which the event occurred. Without one it is stamped when it is captured. -/
  timestamp : Except Panic (Option Timestamp) := .ok none
  /-- The exception. -/
  throwable : Except Panic (Option Throwable) := .ok none
  /-- The thread that the event originated on. Without one it is the thread that captures it. -/
  thread : Except Panic (Option ThreadInfo) := .ok none
  /-- The diagnostic context. -/
  context : Except Panic (Option ContextTable) := .ok none
  /-- The name of the marker. -/
  marker : Except Panic (Option String) := .ok none
  /-- The place that logged the event. -/
  caller : Except Panic (Option CallerFrame) := .ok none
  /-- The properties of the logger context. -/
  properties : Except Panic (Option ContextTable) := .ok none

end Telemetry
