import Telemetry.Proofs.Cache.Recency

/-!
# A cache refines a list ordered by use

A `Script` is a sequence of uses of one cache, each of which may depend on what the earlier ones
answered. A value may be made by a script that uses the same cache or panics, and a change may
panic half way. Between any two uses the slots may be put into any order, so that nothing hangs on
the order in which a table lists its entries.

Main statement: on every script, `Script.run` on an empty cache and `Script.ideal` on the empty
list ordered by use end in the same way and hold the same (`Script.run_refines_ideal`).
-/

namespace Telemetry

namespace Cache

/-! ## Scripts -/

/-- A sequence of uses of a cache that ends in a value of type `β`. What follows a use may depend
on its answer. -/
inductive Script (κ ν : Type) : Type → Type 1 where
  /-- Ends. -/
  | done {β : Type} (answer : β) : Script κ ν β
  /-- Panics. -/
  | fail {β : Type} (panic : Panic) : Script κ ν β
  /-- Puts the slots into another order, which is no use of the cache. -/
  | rearrange {β : Type} (order : List (Slot κ ν) → List (Slot κ ν))
      (perm : ∀ slots, (order slots).Perm slots) (next : Script κ ν β) : Script κ ν β
  /-- Asks for the number of entries. -/
  | size {β : Type} (next : Nat → Script κ ν β) : Script κ ν β
  /-- Looks at the whole content, which is no use of the cache. -/
  | content {β : Type} (next : Recency κ ν → Script κ ν β) : Script κ ν β
  /-- Stores a value. -/
  | insert {β : Type} (key : κ) (value : ν) (next : Option ν → Script κ ν β) : Script κ ν β
  /-- Looks up a key. -/
  | get {β : Type} (key : κ) (next : Option ν → Script κ ν β) : Script κ ν β
  /-- Removes a key. -/
  | remove {β : Type} (key : κ) (next : Option ν → Script κ ν β) : Script κ ν β
  /-- Changes the value of a key in place. -/
  | update {β γ : Type} (key : κ) (fresh : ν) (change : Attempt ν γ)
      (next : γ → Script κ ν β) : Script κ ν β
  /-- Looks up a key, whose value is made by a script of its own if there is none. -/
  | getOrInsert {β : Type} (key : κ) (make : Script κ ν ν) (next : ν → Script κ ν β) :
      Script κ ν β
  /-- Runs a script behind a boundary that no panic passes. -/
  | catching {β γ : Type} (body : Script κ ν γ) (next : Except Panic γ → Script κ ν β) :
      Script κ ν β

namespace Script

variable {κ ν β : Type} [DecidableEq κ]

/-- Runs a script on a cache. -/
def run {β : Type} : Script κ ν β → Attempt (Cache κ ν) β
  | done answer => pure answer
  | fail panic => Attempt.raise panic
  | rearrange order _ next => do
    modify fun c => { c with slots := order c.slots }
    run next
  | size next => do run (next (← modifyGet fun c => (c.size, c)))
  | content next => do run (next (← modifyGet fun c => (c.recency, c)))
  | insert key value next => do run (next (← modifyGet (Cache.insert · key value)))
  | get key next => do run (next (← modifyGet (Cache.get · key)))
  | remove key next => do run (next (← modifyGet (Cache.remove · key)))
  | update key fresh change next => do run (next (← Cache.update key fresh change))
  | getOrInsert key make next => do run (next (← Cache.getOrInsert .id key (run make)))
  | catching body next => do run (next (← (run body).outcome))

/-- Runs a script on a list ordered by use, of at most `capacity` entries. -/
def ideal (capacity : Nat) {β : Type} : Script κ ν β → Attempt (Recency κ ν) β
  | done answer => pure answer
  | fail panic => Attempt.raise panic
  | rearrange _ _ next => ideal capacity next
  | size next => do ideal capacity (next (← modifyGet fun entries => (entries.length, entries)))
  | content next => do ideal capacity (next (← modifyGet fun entries => (entries, entries)))
  | insert key value next => do
    ideal capacity (next (← modifyGet (Recency.insert capacity key value)))
  | get key next => do ideal capacity (next (← modifyGet (Recency.get capacity key)))
  | remove key next => do ideal capacity (next (← modifyGet (Recency.remove key)))
  | update key fresh change next => do
    ideal capacity (next (← Recency.update capacity key fresh change))
  | getOrInsert key make next => do
    ideal capacity (next (← Recency.getOrInsert capacity key (ideal capacity make)))
  | catching body next => do ideal capacity (next (← (ideal capacity body).outcome))

/-! ## The refinement -/

variable {capacity : Nat}

/-- A value is made from what the cache is and from what the list is in the same way. -/
theorem simulates_getOrInsert (key : κ) {make : Attempt (Cache κ ν) ν}
    {make' : Attempt (Recency κ ν) ν} (hmake : Attempt.Simulates (Matches capacity) make make') :
    Attempt.Simulates (Matches capacity) (Cache.getOrInsert .id key make)
      (Recency.getOrInsert capacity key make') := by
  refine Attempt.Simulates.bind (fun c entries h => ?_) fun found => ?_
  · obtain ⟨hvalue, hstate⟩ := h.get key
    exact ⟨congrArg Except.ok hvalue, hstate⟩
  · cases found with
    | some value => exact Attempt.simulates_pure value
    | none =>
      -- Whatever `make` stored for the key is overwritten on both sides.
      refine hmake.bind fun value => Attempt.Simulates.bind (fun c entries h => ?_) fun _ =>
        Attempt.simulates_pure value
      exact ⟨rfl, (h.insert key value).2⟩

/-- On a cache and on a list that hold the same, a script ends in the same way, and they hold the
same afterwards. -/
theorem simulates_run (script : Script κ ν β) :
    Attempt.Simulates (Matches capacity) script.run (script.ideal capacity) := by
  induction script with
  | done answer => exact Attempt.simulates_pure answer
  | fail panic => exact Attempt.simulates_ofOutcome (.error panic)
  | rearrange order perm next ih =>
    -- The list does not see this step.
    intro c entries h
    exact ih ⟨h.1, h.2.rearrange (perm c.slots)⟩
  | size next ih =>
    refine Attempt.Simulates.bind (fun c entries h => ?_) ih
    exact ⟨congrArg Except.ok h.2.size_eq, h⟩
  | content next ih =>
    refine Attempt.Simulates.bind (fun c entries h => ?_) ih
    exact ⟨congrArg Except.ok h.2.recency_eq, h⟩
  | insert key value next ih =>
    refine Attempt.Simulates.bind (fun c entries h => ?_) ih
    exact ⟨congrArg Except.ok (h.insert key value).1, (h.insert key value).2⟩
  | get key next ih =>
    refine Attempt.Simulates.bind (fun c entries h => ?_) ih
    exact ⟨congrArg Except.ok (h.get key).1, (h.get key).2⟩
  | remove key next ih =>
    refine Attempt.Simulates.bind (fun c entries h => ?_) ih
    exact ⟨congrArg Except.ok (h.remove key).1, (h.remove key).2⟩
  | update key fresh change next ih => exact (simulates_update key fresh change).bind ih
  | getOrInsert key make next ihmake ih => exact (simulates_getOrInsert key ihmake).bind ih
  | catching body next ihbody ih => exact ihbody.outcome.bind ih

/-- From an empty cache, a script ends as it does from the empty list, with each answer, size and
content on the way the same, and leaves in the cache what it leaves in the list: no more entries
than the capacity, under distinct keys. -/
theorem run_refines_ideal (capacity : Nat) (script : Script κ ν β) :
    let (ended, c) := script.run { capacity }
    let (ended', entries) := script.ideal capacity []
    ended = ended' ∧ c.recency = entries ∧ c.size = entries.length ∧
      entries.length ≤ capacity ∧ (entries.map Prod.fst).Nodup := by
  obtain ⟨hended, hmatches⟩ := simulates_run script ⟨rfl, holds_nil⟩
  exact ⟨hended, hmatches.2.recency_eq, hmatches.2.size_eq, hmatches.length_le,
    hmatches.2.nodup_keys⟩

end Script

end Cache

end Telemetry
