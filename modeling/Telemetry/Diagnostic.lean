import Telemetry.Framework
import Telemetry.Settings.Value
import Telemetry.Statement.Identity

/-!
# Diagnostics

What an instrumentation reports about itself. Each diagnostic is a cause; its name, its level and
its fields follow from the cause.
-/

namespace Telemetry

/-- Something worth reporting about the instrumentation itself. -/
inductive Diagnostic where
  /-- A setting could not be read, and its default is used. -/
  | invalidSetting (error : SettingError)
  /-- An event was logged while another one was being captured on the same thread. -/
  | nestedCaptureSkipped (depth : Nat)
  /-- Capturing an event of the framework panicked. -/
  | capturePanicked (framework : Framework) (reason : String)
  /-- Handing a record to the logger of this name panicked. -/
  | emitPanicked (loggerName reason : String)
  /-- A parameter was bound at position zero, which does not exist. -/
  | invalidIndex (statement : StatementId)
  /-- Attaching the parameters of a statement to the active span panicked. -/
  | executePanicked (statement : StatementId) (reason : String)
deriving DecidableEq, Repr

namespace Diagnostic

/-- How grave a diagnostic is. -/
inductive Gravity where
  /-- Of interest to whoever looks for the cause of missing data. -/
  | debug
  /-- A failure. -/
  | warn
deriving DecidableEq, Repr

/-- The content of a field. -/
inductive Field where
  /-- A text. -/
  | text (s : String)
  /-- A number. -/
  | number (n : Nat)
deriving DecidableEq, Repr

/-- The name under which a diagnostic is reported. -/
def name : Diagnostic → String
  | invalidSetting _ => "InstrumentationConfig.InvalidSetting"
  | nestedCaptureSkipped _ => "AppenderBridge.NestedCaptureSkipped"
  | capturePanicked _ _ => "AppenderBridge.CapturePanicked"
  | emitPanicked _ _ => "AppenderBridge.EmitPanicked"
  | invalidIndex _ => "ParameterSideTable.InvalidIndex"
  | executePanicked _ _ => "StatementInstrumentation.ExecutePanicked"

/-- How grave a diagnostic is. -/
def gravity : Diagnostic → Gravity
  | nestedCaptureSkipped _ | invalidIndex _ => .debug
  | invalidSetting _ | capturePanicked _ _ | emitPanicked _ _ | executePanicked _ _ => .warn

/-- The fields of a diagnostic. -/
def fields : Diagnostic → List (String × Field)
  | invalidSetting error => [("reason", .text error.message)]
  | nestedCaptureSkipped depth => [("depth", .number depth)]
  | capturePanicked framework reason =>
    [("instrumentation", .text framework.instrumentation), ("reason", .text reason)]
  | emitPanicked loggerName reason => [("logger_name", .text loggerName), ("reason", .text reason)]
  | invalidIndex statement => [("statement", .text statement.text)]
  | executePanicked statement reason =>
    [("statement", .text statement.text), ("reason", .text reason)]

end Diagnostic

end Telemetry
