/-!
# Statement identity

Prepared statements are told apart by number. Two statements with the same text are still two.
-/

namespace Telemetry

/-- The number of a live prepared statement. -/
structure StatementId where
  /-- The number itself. -/
  number : Nat
deriving DecidableEq, Repr

/-- The text of a statement's number. -/
def StatementId.text (id : StatementId) : String := "statement-" ++ toString id.number

end Telemetry
