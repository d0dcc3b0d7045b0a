import Telemetry.Cache.Basic

/-!
# Attribute keys

The keys that are written by name, and the keys that are formed by putting a namespace in front of
a key of the host. A `KeyCache` remembers the latter; its answers do not depend on what it
remembers.
-/

namespace Telemetry

namespace Attribute.Key

/-- The type of an exception. -/
def exceptionType : String := "exception.type"
/-- The message of an exception. -/
def exceptionMessage : String := "exception.message"
/-- The printed stack trace of an exception. -/
def exceptionStacktrace : String := "exception.stacktrace"
/-- The number of a thread. -/
def threadId : String := "thread.id"
/-- The name of a thread. -/
def threadName : String := "thread.name"
/-- The source file of a call site. -/
def codeFilepath : String := "code.filepath"
/-- The class or module of a call site. -/
def codeNamespace : String := "code.namespace"
/-- The function of a call site. -/
def codeFunction : String := "code.function"
/-- The line of a call site. -/
def codeLine : String := "code.lineno"
/-- The rendered parameters of a database statement. -/
def statementValues : String := "db.statement.values"

/-- The keys of the attributes of an event that are written by name. -/
def ofEvents : List String :=
  [exceptionType, exceptionMessage, exceptionStacktrace, threadId, threadName, codeFilepath,
    codeNamespace, codeFunction, codeLine]

end Attribute.Key

/-- A memory of the attribute keys in one namespace. -/
structure KeyCache where
  /-- The namespace, or none if keys stay as they are. -/
  scope : Option String
  /-- The attribute key of each remembered key. -/
  keys : Cache String String

namespace KeyCache

/-- A memory for at most `capacity` keys. -/
def ofCapacity (scope : Option String) (capacity : Nat) : KeyCache := ⟨scope, { capacity }⟩

/-- A memory of the usual size for the keys of a namespace. -/
def ofScope (scope : String) : KeyCache := ofCapacity (some scope) Cache.defaultCapacity

/-- The memory of keys that stay as they are, which has nothing to remember. -/
def verbatim : KeyCache := ofCapacity none 0

/-- The keys as a place of the memory. -/
def keysPlace : Lens KeyCache (Cache String String) where
  get c := c.keys
  set keys c := { c with keys }

/-- A key inside a namespace. -/
def qualify (scope key : String) : String := scope ++ "." ++ key

/-- The attribute key of a key of the host. -/
def key (raw : String) : Attempt KeyCache String := do
  match (← get).scope with
  | some scope => Cache.getOrInsert keysPlace raw (pure (qualify scope raw))
  | none => pure raw

/-- The one-line description of the memory. -/
def describe (c : KeyCache) : String :=
  Text.outline "KeyCache"
    [("namespace", Text.outlineOption c.scope), ("keys", c.keys.describe)]

end KeyCache

end Telemetry
