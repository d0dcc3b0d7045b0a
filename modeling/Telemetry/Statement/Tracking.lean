import Telemetry.Attribute.Key
import Telemetry.Host

/-!
# Tracking statements

What an instrumented database driver calls when a parameter is bound and when a statement runs. The
span that is active when the statement runs is asked for an attribute with the parameters bound so
far.
-/

namespace Telemetry.Statement

open Host

variable {α β : Type}

/-- The kind of call that binds a parameter. A setter that calls another one binds once. -/
def parameterBind : CallKind := "opentelemetry.jdbc.parameter-bind"

/-- Remembers a bound parameter. Positions count from one; nothing is bound at zero. -/
def record (id : TableId) (statement : StatementId) (index : Nat) (value : ParameterValue) :
    Attempt (Host α) Unit :=
  if index = 0 then report (.invalidIndex statement)
  else Attempt.focus (tablePlace id) (ParameterTable.put statement index value)

/-- Remembers a bound parameter, then runs the setter's `body`. What `body` binds is not remembered
again. -/
def bindWith (id : TableId) (statement : StatementId) (index : Nat) (value : ParameterValue)
    (body : Attempt (Host α) β) : Attempt (Host α) β :=
  guarded parameterBind fun call => do
    if call.isOutermost then record id statement index value
    body

/-- Remembers a bound parameter. -/
def bind (id : TableId) (statement : StatementId) (index : Nat) (value : ParameterValue) :
    Attempt (Host α) Unit :=
  bindWith id statement index value (pure ())

/-- Asks the active span for an attribute with rendered parameters, if it is valid. Answers whether
it was asked. Unless it panics, the span does not tell what it made of the request. -/
def attach (rendered : String) : Attempt (Host α) Bool := fun host =>
  match host.here.spans with
  | span :: outer =>
    if span.context.isValid then
      let (result, span) := Span.setAttribute Attribute.Key.statementValues rendered span
      (result.map fun _ => true, { host with here := { host.here with spans := span :: outer } })
    else (.ok false, host)
  | [] => (.ok false, host)

/-- Forgets the parameters of a statement that runs, and asks the active span for an attribute with
them. Answers the text that the span was asked for. -/
def execute (id : TableId) (statement : StatementId) : Attempt (Host α) (Option String) := do
  match ← Attempt.focus (tablePlace id) (modifyGet (·.remove statement)) with
  | none => return none
  | some parameters =>
    if parameters.isEmpty then return none
    let rendered := Parameters.render parameters
    match ← Attempt.outcome (attach rendered) with
    | .ok attached => return if attached then some rendered else none
    | .error panic =>
      report (.executePanicked statement panic.message)
      return none

end Telemetry.Statement
