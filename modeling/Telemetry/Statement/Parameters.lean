import Std.Data.TreeMap
import Telemetry.Cache.Basic
import Telemetry.Statement.Identity
import Telemetry.Statement.Value

/-!
# Pending parameters

The parameters bound to each live statement since it last ran. The table is bounded: if too many
statements are live, the one used least recently loses what was bound to it.
-/

namespace Telemetry

/-- The parameters of a statement by position, which counts from one. -/
abbrev Parameters := Std.TreeMap Nat ParameterValue

/-- The values in brackets, ordered by position and separated by commas. -/
def Parameters.render (parameters : Parameters) : String :=
  "[" ++ ",".intercalate (parameters.toList.map (·.2.render)) ++ "]"

/-- The parameters of the live statements. -/
abbrev ParameterTable := Cache StatementId Parameters

namespace ParameterTable

/-- A table for at most `capacity` statements. -/
def ofCapacity (capacity : Nat) : ParameterTable := { capacity }

/-- A table of the usual size. -/
def empty : ParameterTable := ofCapacity Cache.defaultCapacity

/-- Sets the parameter at a position, whatever was bound there before. -/
def put (statement : StatementId) (index : Nat) (value : ParameterValue) :
    Attempt ParameterTable Unit :=
  Cache.update statement ∅ (modify (·.insert index value))

/-- The one-line description of a table. -/
def describe (table : ParameterTable) : String :=
  Text.outline "ParameterSideTable" [("statements", Cache.describe table)]

/-- The one-line description of an instrumentation that has such a table. -/
def describeOwner (table : ParameterTable) : String :=
  Text.outline "StatementInstrumentation" [("side_table", describe table)]

end ParameterTable

end Telemetry
