import Telemetry.Attribute.Map
import Telemetry.Severity.Basic
import Telemetry.Span
import Telemetry.Timestamp

/-!
# Records

A `Record` is a log event in the common form, before it is emitted; an `Emission` is what the sink
is given. They differ in what is filled in at the last moment: the logger, the time and the span.
-/

namespace Telemetry

/-- A log event in the common form of all frameworks. -/
structure Record where
  /-- The text of the message. -/
  body : Option String := none
  /-- The time of the event. Without one the record is stamped when it is emitted. -/
  timestamp : Option Timestamp := none
  /-- The severity. -/
  severity : Option Severity := none
  /-- The framework's own label of the level. -/
  severityText : Option String := none
  /-- The attributes. -/
  attributes : AttributeMap := .empty
  /-- The span to correlate with. Without a valid one it is the span active at emission. -/
  traceContext : Option SpanContext := none

/-- A logger that a sink has created. -/
structure Logger where
  /-- The name it was created for. -/
  name : String
deriving DecidableEq, Repr

/-- What a logger is given to emit. Fields without a content were never set. -/
structure Emission where
  /-- The logger that emits. -/
  logger : Logger
  /-- The text of the message. -/
  body : Option String
  /-- The time of the event. -/
  timestamp : Timestamp
  /-- The severity. -/
  severity : Option Severity
  /-- The framework's own label of the level. -/
  severityText : Option String
  /-- The attributes, of which there is at least one. -/
  attributes : Option AttributeMap
  /-- The span that the event is correlated with. -/
  traceContext : Option SpanContext

/-- The record as `logger` emits it at the time `now` under the span `active`. -/
def Record.emission (r : Record) (logger : Logger) (now : Timestamp) (active : Option SpanContext) :
    Emission where
  logger := logger
  body := r.body
  timestamp := r.timestamp.getD now
  severity := r.severity
  severityText := r.severityText
  attributes := if r.attributes.isEmpty then none else some r.attributes
  traceContext := (r.traceContext.filter (·.isValid)).or (active.filter (·.isValid))

end Telemetry
