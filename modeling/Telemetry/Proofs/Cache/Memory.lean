import Telemetry.Attribute.Key
import Telemetry.Proofs.Attempt

/-!
# Caches that remember results

A cache that only ever receives values which their keys allow gives out only such values, whatever
it evicts (`Cache.Stores`). A memory of attribute keys is such a cache: it remembers a key as it
would form it anew (`KeyCache.Faithful`), so that its answers do not show what it remembers
(`KeyCache.Faithful.key`).
-/

namespace Telemetry

namespace Cache

variable {κ ν σ : Type} {P : κ → ν → Prop} {c : Cache κ ν} {key : κ} {value : ν}

/-- Every stored value is one that `P` allows for its key. -/
def Stores (P : κ → ν → Prop) (c : Cache κ ν) : Prop := ∀ slot ∈ c.slots, P slot.key slot.value

theorem stores_empty {capacity : Nat} : Stores P ({ capacity } : Cache κ ν) :=
  fun _ hslot => nomatch hslot

variable [DecidableEq κ]

/-- Making room adds no slot. -/
theorem makeRoom_subset {capacity : Nat} {slots : List (Slot κ ν)} :
    makeRoom capacity slots ⊆ slots := by
  rw [makeRoom]
  split
  · exact List.Subset.refl _
  · split
    · exact fun slot hslot => (List.mem_filter.mp hslot).1
    · exact List.Subset.refl _

theorem Stores.write (h : c.Stores P) (hvalue : P key value) : (c.write key value).Stores P := by
  intro slot hslot
  simp only [Cache.write] at hslot
  split at hslot
  · -- The slot of the key is overwritten where it is.
    obtain ⟨old, hold, rfl⟩ := List.mem_map.mp hslot
    split
    · exact hvalue
    · exact h old hold
  · rcases List.mem_cons.mp hslot with rfl | hkept
    · exact hvalue
    · exact h slot (makeRoom_subset hkept)

theorem Stores.of_find? (h : c.Stores P) {slot : Slot κ ν} (hfind : c.find? key = some slot) :
    P key slot.value := by
  have hkey : slot.key = key := by simpa using List.find?_some hfind
  exact hkey ▸ h slot (List.mem_of_find?_eq_some hfind)

theorem Stores.of_get (h : c.Stores P) (hget : (c.get key).1 = some value) : P key value := by
  rw [Cache.get] at hget
  cases hfind : c.find? key with
  | none => simp [hfind] at hget
  | some slot =>
    obtain rfl : slot.value = value := by simpa [hfind] using hget
    exact h.of_find? hfind

theorem Stores.get (h : c.Stores P) : (c.get key).2.Stores P := by
  rw [Cache.get]
  split
  next slot hfind => exact h.write (h.of_find? hfind)
  next => exact h

theorem Stores.insert (h : c.Stores P) (hvalue : P key value) :
    (c.insert key value).2.Stores P := by
  rw [Cache.insert]
  split
  · exact h
  · exact h.write hvalue

theorem Stores.update {α : Type} {fresh : ν} {change : Attempt ν α} (h : c.Stores P)
    (hchange : ∀ value, P key (change value).2) : (update key fresh change c).2.Stores P := by
  show Stores P (if c.capacity = 0 then c else c.write key _)
  split
  · exact h
  · exact h.write (hchange _)

theorem Stores.remove (h : c.Stores P) : (c.remove key).2.Stores P :=
  fun slot hslot => h slot (List.mem_filter.mp hslot).1

/-- A miss leaves the cache as it is. -/
theorem get_snd_of_miss (hget : (c.get key).1 = none) : (c.get key).2 = c := by
  rw [Cache.get] at hget ⊢
  cases hfind : c.find? key with
  | none => rfl
  | some slot => simp [hfind] at hget

section GetOrInsert

open Attempt

variable {lens : Lens σ (Cache κ ν)} {s : σ}

/-- A value that is remembered is not made. -/
theorem getOrInsert_of_hit (make : Attempt σ ν) (hget : ((lens.get s).get key).1 = some value) :
    getOrInsert lens key make s = (.ok value, lens.set ((lens.get s).get key).2 s) := by
  rw [getOrInsert, bind_apply]
  simp only [focus_apply, modifyGet_apply, hget, pure_apply]

/-- A value that is not remembered is made, and then remembered if making it did not panic. -/
theorem getOrInsert_of_miss (make : Attempt σ ν) (hget : ((lens.get s).get key).1 = none) :
    getOrInsert lens key make s =
      match make (lens.set (lens.get s) s) with
      | (.ok value, s) => (.ok value, lens.set ((lens.get s).insert key value).2 s)
      | (.error panic, s) => (.error panic, s) := by
  rw [getOrInsert, bind_apply]
  simp only [focus_apply, modifyGet_apply, hget, get_snd_of_miss hget, bind_apply]
  cases make (lens.set (lens.get s) s) with
  | mk ended t => cases ended <;> rfl

end GetOrInsert

end Cache

/-! ## Attribute keys -/

namespace KeyCache

open Attempt

variable {c : KeyCache} {scope : Option String}

/-- The attribute key of a key of the host, formed anew. -/
def form (scope : Option String) (raw : String) : String :=
  match scope with
  | some scope => qualify scope raw
  | none => raw

/-- Two keys in one namespace are the same only if they are formed of the same key. -/
theorem form_injective (scope : Option String) : Function.Injective (form scope) := by
  intro raw raw' h
  rcases scope with _ | scope
  · exact h
  · have htail : scope.toList ++ ".".toList ++ raw.toList =
        scope.toList ++ ".".toList ++ raw'.toList := by
      simpa [form, qualify] using congrArg String.toList h
    exact String.toList_inj.mp (List.append_cancel_left htail)

/-- A memory for the keys of a namespace that remembers each key as it would be formed anew. -/
structure Faithful (scope : Option String) (c : KeyCache) : Prop where
  scope_eq : c.scope = scope
  keys : c.keys.Stores fun raw key => key = form scope raw

theorem faithful_ofCapacity {capacity : Nat} : (ofCapacity scope capacity).Faithful scope :=
  ⟨rfl, Cache.stores_empty⟩

/-- The answer does not depend on what is remembered. -/
theorem Faithful.key (h : c.Faithful scope) (raw : String) :
    (KeyCache.key raw c).1 = .ok (form scope raw) ∧ (KeyCache.key raw c).2.Faithful scope := by
  rw [KeyCache.key, bind_ok get_apply]
  cases scope with
  | none =>
    rw [h.scope_eq]
    exact ⟨rfl, h⟩
  | some scope =>
    rw [h.scope_eq]
    cases hget : ((keysPlace.get c).get raw).1 with
    | some key =>
      -- What is remembered is what would be formed.
      have hhit := Cache.getOrInsert_of_hit (pure (qualify scope raw)) hget
      simp only [hhit]
      exact ⟨congrArg Except.ok (h.keys.of_get hget), h.scope_eq, h.keys.get⟩
    | none =>
      have hmiss := Cache.getOrInsert_of_miss (pure (qualify scope raw)) hget
      simp only [hmiss]
      exact ⟨rfl, h.scope_eq, h.keys.insert rfl⟩

end KeyCache

end Telemetry
