import Telemetry.Severity.Ladder

/-!
# Logging frameworks

The frameworks whose events are captured, each with its vocabulary: what its instrumentation is
called in settings, under which attribute keys its data is exported, which levels it defines and
how they map to severities.
-/

namespace Telemetry

/-- A supported logging framework. -/
inductive Framework where
  /-- `java.util.logging`. -/
  | javaUtilLogging
  /-- Log4j 1.2. -/
  | log4j1
  /-- Log4j 2. -/
  | log4j2
  /-- Logback. -/
  | logback
deriving DecidableEq, Repr

/-- A level of a framework, standard or not. -/
structure Level where
  /-- The label that the framework prints. -/
  name : String
  /-- The place of the level on the framework's scale. -/
  value : Int
deriving DecidableEq, Repr

/-- The one-line description of a level. -/
def Level.describe (level : Level) : String := level.name ++ "(" ++ toString level.value ++ ")"

namespace Framework

/-- Every supported framework. -/
def all : List Framework := [javaUtilLogging, log4j1, log4j2, logback]

/-- The place of a framework among all of them. -/
def index : Framework → Nat
  | javaUtilLogging => 0
  | log4j1 => 1
  | log4j2 => 2
  | logback => 3

theorem index_lt (framework : Framework) : framework.index < 4 := by
  cases framework <;> decide

/-- The place of a framework among four places. -/
def place (framework : Framework) : Fin 4 := ⟨framework.index, framework.index_lt⟩

/-- The one-line description of a framework. -/
def describe : Framework → String
  | javaUtilLogging => "JavaUtilLogging"
  | log4j1 => "Log4j1"
  | log4j2 => "Log4j2"
  | logback => "Logback"

/-- The name of the instrumentation, from which the names of its settings are formed. Both versions
of Log4j are configured together. -/
def instrumentation : Framework → String
  | javaUtilLogging => "java-util-logging"
  | log4j1 | log4j2 => "log4j-appender"
  | logback => "logback-appender"

/-- The namespace of attributes taken from the diagnostic context, if their keys get one. -/
def contextNamespace : Framework → Option String
  | log4j1 => some "log4j.mdc"
  | logback => some "logback.mdc"
  | javaUtilLogging | log4j2 => none

/-- The namespace of attributes taken from map messages. -/
def mapMessageNamespace : Framework → String := fun _ => "log4j.map_message"

/-- The attribute key of the marker, in frameworks that have markers. -/
def markerKey : Framework → Option String
  | log4j2 => some "log4j.marker"
  | logback => some "logback.marker"
  | javaUtilLogging | log4j1 => none

/-- The greatest value of a level. -/
def greatestLevel : Int := 2147483647

/-- The least value of a level. -/
def leastLevel : Int := -2147483648

/-- The standard levels, from the most severe to the least. -/
def levels : Framework → List Level
  | javaUtilLogging =>
    [⟨"OFF", greatestLevel⟩, ⟨"SEVERE", 1000⟩, ⟨"WARNING", 900⟩, ⟨"INFO", 800⟩, ⟨"CONFIG", 700⟩,
     ⟨"FINE", 500⟩, ⟨"FINER", 400⟩, ⟨"FINEST", 300⟩, ⟨"ALL", leastLevel⟩]
  | log4j1 =>
    [⟨"OFF", greatestLevel⟩, ⟨"FATAL", 50000⟩, ⟨"ERROR", 40000⟩, ⟨"WARN", 30000⟩,
     ⟨"INFO", 20000⟩, ⟨"DEBUG", 10000⟩, ⟨"TRACE", 5000⟩, ⟨"ALL", leastLevel⟩]
  | log4j2 =>
    [⟨"OFF", 0⟩, ⟨"FATAL", 100⟩, ⟨"ERROR", 200⟩, ⟨"WARN", 300⟩, ⟨"INFO", 400⟩, ⟨"DEBUG", 500⟩,
     ⟨"TRACE", 600⟩, ⟨"ALL", greatestLevel⟩]
  | logback =>
    [⟨"OFF", greatestLevel⟩, ⟨"ERROR", 40000⟩, ⟨"WARN", 30000⟩, ⟨"INFO", 20000⟩,
     ⟨"DEBUG", 10000⟩, ⟨"TRACE", 5000⟩, ⟨"ALL", leastLevel⟩]

/-- The standard level of a name. -/
def level? (framework : Framework) (name : String) : Option Level :=
  framework.levels.find? (·.name = name)

/-- The steps that Log4j 1.2 and Logback share. -/
private def thousands : List (Int × Severity) :=
  [(5000, ⟨.trace, 0⟩), (10000, ⟨.debug, 0⟩), (20000, ⟨.info, 0⟩), (30000, ⟨.warn, 0⟩),
   (40000, ⟨.error, 0⟩)]

/-- How the levels of a framework map to severities. Only Log4j 2 counts downwards, and there
whatever is more severe than `FATAL` is `OFF`. -/
def ladder : Framework → Ladder
  | javaUtilLogging =>
    { scale := .ascending
      steps :=
        [(300, ⟨.trace, 0⟩), (400, ⟨.debug, 0⟩), (500, ⟨.debug, 1⟩), (700, ⟨.debug, 2⟩),
         (800, ⟨.info, 0⟩), (900, ⟨.warn, 0⟩), (1000, ⟨.error, 0⟩)]
      beyond := some ⟨.fatal, 0⟩
      off := some greatestLevel }
  | log4j1 =>
    { scale := .ascending
      steps := thousands
      beyond := some ⟨.fatal, 0⟩
      off := some greatestLevel }
  | log4j2 =>
    { scale := .descending
      steps :=
        [(600, ⟨.trace, 0⟩), (500, ⟨.debug, 0⟩), (400, ⟨.info, 0⟩), (300, ⟨.warn, 0⟩),
         (200, ⟨.error, 0⟩), (100, ⟨.fatal, 0⟩)] }
  | logback =>
    { scale := .ascending
      steps := thousands
      off := some greatestLevel }

end Framework

end Telemetry
