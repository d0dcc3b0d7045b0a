import Telemetry.Diagnostic

/-!
# The environment

Settings are read from the environment, whose values are bytes. A value that cannot be used is
reported, and the default takes its place: reading never fails.
-/

namespace Telemetry

/-- The variables of a process, with values that need not be text. -/
structure Environment where
  /-- The value of a variable. -/
  value? : String → Option ByteArray

/-- A computation that may report diagnostics, which are kept in the order of their occurrence. -/
abbrev Reporting := StateM (List Diagnostic)

/-- Reports a diagnostic. -/
def Reporting.report (diagnostic : Diagnostic) : Reporting Unit := modify (· ++ [diagnostic])

namespace Environment

/-- The environment in which each variable has the last value given for it. -/
def ofList (assignments : List (String × ByteArray)) : Environment where
  value? name := (assignments.reverse.find? (·.1 = name)).map (·.2)

/-- The text of a variable, if it is set. -/
def text? (env : Environment) (name : String) : Except SettingError (Option String) :=
  match env.value? name with
  | none => .ok none
  | some bytes =>
    match String.fromUTF8? bytes with
    | some text => .ok (some text)
    | none => .error (.notUnicode name)

/-- What a variable says when it is read with `parse`, or `default` if it says nothing usable. -/
def readWith {α : Type} (env : Environment) (parse : String → Except SettingError α) (default : α)
    (name : String) : Reporting α := do
  match (env.text? name).bind fun text => text.mapM parse with
  | .ok (some value) => pure value
  | .ok none => pure default
  | .error error =>
    Reporting.report (.invalidSetting error)
    pure default

/-- The truth value of a variable. -/
def readBool (env : Environment) (name : String) (default : Bool) : Reporting Bool :=
  env.readWith (Setting.parseBool name) default name

/-- The list of a variable, or none if it is unset or unusable. -/
def readList? (env : Environment) (name : String) : Reporting (Option (List String)) :=
  env.readWith (fun text => .ok (some (Setting.parseList text))) none name

end Environment

end Telemetry
