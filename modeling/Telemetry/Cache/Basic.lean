import Telemetry.Attempt
import Telemetry.Text.Outline

/-!
# A bounded cache

A `Cache` holds at most `capacity` entries. Every use of an entry stamps it with the reading of a
clock that ticks with each stamp, so no two stamps are equal, and a new entry of a full cache takes
the place of the one with the oldest stamp. The entries are kept in no particular order: only the
stamps say which was used when.

Callers may lose an entry at any time, and must be able to make it again.
-/

namespace Telemetry

/-- A stored value, with its key and the time of its last use. -/
structure Cache.Slot (κ ν : Type) where
  /-- The key. -/
  key : κ
  /-- The value stored for it. -/
  value : ν
  /-- The stamp of the last use. -/
  lastUsed : Nat
deriving DecidableEq, Repr

/-- A map of bounded size that makes room by dropping the entry that was used least recently. -/
structure Cache (κ ν : Type) where
  /-- The greatest number of entries. -/
  capacity : Nat
  /-- The next stamp: how many were given out so far. These have to be fewer than 2 ^ 64, since the
  clock has 64 bits and would then start anew. -/
  clock : Nat := 0
  /-- The entries, in no particular order and with distinct keys. -/
  slots : List (Cache.Slot κ ν) := []
deriving DecidableEq, Repr

namespace Cache

variable {κ ν σ α : Type}

/-- The number of entries that the caches of an instrumentation hold unless they say otherwise. -/
def defaultCapacity : Nat := 100

/-- The number of entries. -/
def size (c : Cache κ ν) : Nat := c.slots.length

/-- Whether the cache has no entry. -/
def isEmpty (c : Cache κ ν) : Bool := c.slots.isEmpty

/-- The one-line description of the cache: its bound and its size, not its content. -/
def describe (c : Cache κ ν) : String :=
  Text.outline "BoundedCache" [("capacity", toString c.capacity), ("len", toString c.size)]

/-- The slot that was used least recently. -/
def oldest? : List (Slot κ ν) → Option (Slot κ ν)
  | [] => none
  | s :: rest =>
    match oldest? rest with
    | some t => some (if t.lastUsed < s.lastUsed then t else s)
    | none => some s

variable [DecidableEq κ]

/-- The slot of a key. -/
def find? (c : Cache κ ν) (key : κ) : Option (Slot κ ν) := c.slots.find? (·.key = key)

/-- The slots without that of a key. -/
def without (key : κ) (slots : List (Slot κ ν)) : List (Slot κ ν) := slots.filter (·.key ≠ key)

/-- The slots after the oldest was dropped, if there were as many as `capacity` allows. -/
def makeRoom (capacity : Nat) (slots : List (Slot κ ν)) : List (Slot κ ν) :=
  if slots.length < capacity then slots
  else match oldest? slots with
    | some s => without s.key slots
    | none => slots

/-- Writes an entry that counts as used now, in a cache that can hold one. The entry of the key is
overwritten where it is; a new one may cost the oldest entry its place. -/
def write (c : Cache κ ν) (key : κ) (value : ν) : Cache κ ν :=
  let slot : Slot κ ν := ⟨key, value, c.clock⟩
  { c with
    clock := c.clock + 1
    slots := match c.find? key with
      | some _ => c.slots.map fun s => if s.key = key then slot else s
      | none => slot :: makeRoom c.capacity c.slots }

/-- Looks up a key. A hit counts as a use; a miss changes nothing. -/
def get (c : Cache κ ν) (key : κ) : Option ν × Cache κ ν :=
  match c.find? key with
  | some s => (some s.value, c.write key s.value)
  | none => (none, c)

/-- Stores a value and answers the one it replaced. A cache without capacity stores nothing. -/
def insert (c : Cache κ ν) (key : κ) (value : ν) : Option ν × Cache κ ν :=
  if c.capacity = 0 then (none, c)
  else ((c.find? key).map (·.value), c.write key value)

/-- Removes the entry of a key and answers its value. -/
def remove (c : Cache κ ν) (key : κ) : Option ν × Cache κ ν :=
  ((c.find? key).map (·.value), { c with slots := without key c.slots })

/-- Changes the entry of a key in place, starting from `fresh` if there is none. If the change
panics half way, the entry keeps what it has become by then. Without capacity the change works on
a value that is stored nowhere. -/
def update (key : κ) (fresh : ν) (change : Attempt ν α) : Attempt (Cache κ ν) α := fun c =>
  let (result, value) := change (((c.find? key).map (·.value)).getD fresh)
  (result, if c.capacity = 0 then c else c.write key value)

/-- The value of a key, made and stored if there is none. The cache, which `lens` finds in the
state, is free for any use while `make` runs; what `make` itself stored for the key is overwritten
by what it returns, and nothing is stored if it panics. -/
def getOrInsert (lens : Lens σ (Cache κ ν)) (key : κ) (make : Attempt σ ν) : Attempt σ ν := do
  match ← Attempt.focus lens (modifyGet (·.get key)) with
  | some value => pure value
  | none =>
    let value ← make
    Attempt.focus lens (modify fun c => (c.insert key value).2)
    pure value

end Cache

end Telemetry
