import Telemetry.Proofs.Cache.Memory
import Telemetry.Proofs.Cache.Recent

/-!
# What a memory of keys shows of itself

A memory of attribute keys that was asked for some keys in turn, from when it was new: it remembers
the keys asked for last, each as it would be formed anew (`KeyCache.Asked`). Nothing of this shows
in the answers, and only the number of different keys shows in the number of those remembered.

Main statement: `KeyCache.answers_transparent`.
-/

namespace Telemetry.KeyCache

open Attempt

variable {scope : Option String} {capacity : Nat} {c : KeyCache} {asked : List String}

/-- A memory for at most `capacity` keys of a namespace that was asked for some keys. Without a
namespace no key is worth remembering. -/
structure Asked (scope : Option String) (capacity : Nat) (asked : List String) (c : KeyCache) :
    Prop where
  scope_eq : c.scope = scope
  keys : c.keys.Remembers (form scope) capacity (if scope.isSome then asked else [])

theorem asked_nil : (ofCapacity scope capacity).Asked scope capacity [] := by
  refine ⟨rfl, ?_⟩
  rw [ite_self]
  exact Cache.remembers_nil

/-- Each key asked for is answered as if it were formed anew, whether it is remembered or not. -/
theorem Asked.key (h : c.Asked scope capacity asked) (raw : String) :
    ∃ c', KeyCache.key raw c = (.ok (form scope raw), c') ∧
      c'.Asked scope capacity (asked ++ [raw]) := by
  obtain ⟨hscope, hkeys⟩ := h
  rw [KeyCache.key, bind_ok get_apply, hscope]
  cases scope with
  | none => exact ⟨c, rfl, hscope, hkeys⟩
  | some scope =>
    -- A key that was asked for lately is found, and is the one that would be formed.
    have hget : ((keysPlace.get c).get raw).1 =
        if raw ∈ (Recency.latest asked).take capacity then some (qualify scope raw) else none :=
      hkeys.get_fst
    by_cases hlately : raw ∈ (Recency.latest asked).take capacity
    · rw [if_pos hlately] at hget
      exact ⟨_, Cache.getOrInsert_of_hit _ hget, hscope, hkeys.get hlately⟩
    · rw [if_neg hlately] at hget
      exact ⟨_, Cache.getOrInsert_of_miss _ hget, hscope, hkeys.insert raw⟩

/-- Asking for keys in turn goes on from what was asked for before. -/
theorem Asked.mapM_key (h : c.Asked scope capacity asked) (raws : List String) :
    ∃ c', raws.mapM KeyCache.key c = (.ok (raws.map (form scope)), c') ∧
      c'.Asked scope capacity (asked ++ raws) := by
  induction raws generalizing asked c with
  | nil => exact ⟨c, rfl, by rwa [List.append_nil]⟩
  | cons raw raws ih =>
    obtain ⟨c₁, hkey, hasked⟩ := h.key raw
    obtain ⟨c₂, hkeys, hasked'⟩ := ih hasked
    refine ⟨c₂, ?_, by rwa [List.append_assoc] at hasked'⟩
    rw [List.mapM_cons, bind_ok hkey, bind_ok hkeys]
    rfl

/-- As many keys are remembered as were asked for, but no more than there may be. -/
theorem Asked.size_eq (h : c.Asked scope capacity asked) :
    c.keys.size = if scope.isSome then min capacity asked.toFinset.card else 0 := by
  rw [h.keys.size_eq]
  cases scope with
  | none => exact Nat.min_zero capacity
  | some scope => rfl

/-- The answers of a memory of keys, whatever it is asked for and however little it may remember,
are the keys put into its namespace. Two of them are the same only for the same key. It remembers
as many keys as were different, up to as many as it may, and none if it has no namespace. -/
theorem answers_transparent (scope : Option String) (capacity : Nat) (raws : List String) :
    ∃ answers c, raws.mapM KeyCache.key (ofCapacity scope capacity) = (.ok answers, c) ∧
      (answers = raws.map fun raw =>
        match scope with
        | some scope => scope ++ "." ++ raw
        | none => raw) ∧
      (∀ i j : Nat, answers[i]? = answers[j]? → raws[i]? = raws[j]?) ∧
      c.keys.size = if scope.isSome then min capacity raws.toFinset.card else 0 := by
  have hnew : (ofCapacity scope capacity).Asked scope capacity [] := asked_nil
  obtain ⟨c, hrun, hasked⟩ := hnew.mapM_key raws
  refine ⟨raws.map (form scope), c, hrun, rfl, fun i j hanswers => ?_, hasked.size_eq⟩
  rw [List.getElem?_map, List.getElem?_map] at hanswers
  exact Option.map_injective (form_injective scope) hanswers

end Telemetry.KeyCache
