import Mathlib.Data.List.Induction
import Mathlib.Data.List.Nodup
import Telemetry.Attribute.Map
import Telemetry.Proofs.Keyed

/-!
# Attributes and the writes they come from

What a sequence of writes leaves in an empty attribute map is said without the map: each key once,
at the place of its first write and with the value of its last (`AttributeMap.lastWins`).

* `AttributeMap.pairwise_idxOf_eraseDups`: without duplicates the keys are in the order of the first
  writes.
* `AttributeMap.lastWrite?`: the last value that is written to a key.
* `AttributeMap.toList_insertMany`: writing in a row gives the reference.
* `AttributeMap.get?_insertMany`: a look-up answers the last write.
* `AttributeMap.lastWrite?_of_blocks`: of writes that come in blocks, the latest block that writes a
  key decides.
-/

namespace Telemetry.AttributeMap

open Attribute (Value)

variable {m : AttributeMap} {key other : String} {value : Value}
  {writes later : List (String × Value)}

/-! ## Erasing duplicates -/

section Duplicates

variable {α : Type} [DecidableEq α] {xs : List α}

/-- One more member goes to the end, unless it has occurred before. -/
theorem eraseDups_concat (last : α) :
    (xs ++ [last]).eraseDups = if last ∈ xs then xs.eraseDups else xs.eraseDups ++ [last] := by
  rw [List.eraseDups_append, List.removeAll]
  split_ifs with hlast
  · simp [hlast]
  · simp [hlast, List.eraseDups_cons]

/-- Erasing duplicates keeps the order in which the members first occur. -/
theorem pairwise_idxOf_eraseDups (xs : List α) :
    xs.eraseDups.Pairwise fun x y => xs.idxOf x < xs.idxOf y := by
  induction xs using List.reverseRecOn with
  | nil => exact .nil
  | append_singleton xs last ih =>
    -- A member has its place from its first occurrence, which what follows does not change.
    have hplace : ∀ x ∈ xs.eraseDups, (xs ++ [last]).idxOf x = xs.idxOf x := fun x hx =>
      List.idxOf_append_of_mem (List.mem_eraseDups.mp hx)
    have hbefore : xs.eraseDups.Pairwise fun x y =>
        (xs ++ [last]).idxOf x < (xs ++ [last]).idxOf y :=
      ih.imp_of_mem fun hx hy hlt => by rwa [hplace _ hx, hplace _ hy]
    rw [eraseDups_concat]
    split_ifs with hlast
    · exact hbefore
    · rw [List.pairwise_append]
      refine ⟨hbefore, List.pairwise_singleton _ _, fun x hx y hy => ?_⟩
      obtain rfl : y = last := List.mem_singleton.mp hy
      rw [hplace x hx, List.idxOf_append_of_notMem hlast]
      exact Nat.lt_add_right _ (List.idxOf_lt_length_of_mem (List.mem_eraseDups.mp hx))

theorem nodup_eraseDups (xs : List α) : xs.eraseDups.Nodup :=
  (pairwise_idxOf_eraseDups xs).imp fun hlt heq => Nat.ne_of_lt hlt (congrArg xs.idxOf heq)

end Duplicates

/-! ## The reference -/

/-- The last value that is written to a key. -/
def lastWrite? (writes : List (String × Value)) (key : String) : Option Value :=
  writes.reverse.lookup key

/-- What writes leave: each key once, at the place of its first write, with the value of its
last. -/
def lastWins (writes : List (String × Value)) : List (String × Value) :=
  (writes.map Prod.fst).eraseDups.filterMap fun key =>
    (lastWrite? writes key).map fun value => (key, value)

theorem lastWrite?_nil : lastWrite? [] key = none := rfl

/-- Later writes come first. -/
theorem lastWrite?_append :
    lastWrite? (writes ++ later) key = (lastWrite? later key).or (lastWrite? writes key) := by
  rw [lastWrite?, List.reverse_append, List.lookup_append]
  rfl

theorem lastWrite?_singleton :
    lastWrite? [(other, value)] key = if key = other then some value else none := by
  by_cases h : key = other <;> simp [lastWrite?, h]

/-- A key that is not written has no last write. -/
theorem lastWrite?_eq_none_iff : lastWrite? writes key = none ↔ key ∉ writes.map Prod.fst :=
  Keyed.lookup_reverse_eq_none_iff

/-- The latest of some blocks that writes a key decides its value. -/
theorem lastWrite?_of_blocks {before after : List (List (String × Value))}
    (hafter : key ∉ after.flatten.map Prod.fst) (hwritten : key ∈ writes.map Prod.fst) :
    lastWrite? (before ++ writes :: after).flatten key = lastWrite? writes key := by
  rw [List.flatten_append, List.flatten_cons, lastWrite?_append, lastWrite?_append,
    lastWrite?_eq_none_iff.mpr hafter, Option.none_or]
  rcases hlast : lastWrite? writes key with _ | value
  · exact absurd hwritten (lastWrite?_eq_none_iff.mp hlast)
  · rfl

/-- The keys of the reference are those that are written, in the order of the first writes. -/
theorem keys_lastWins : (lastWins writes).map Prod.fst = (writes.map Prod.fst).eraseDups := by
  rw [lastWins, List.map_filterMap]
  refine (List.filterMap_congr fun key hkey => ?_).trans List.filterMap_some
  obtain ⟨value, hvalue⟩ : ∃ value, lastWrite? writes key = some value := by
    rw [← Option.ne_none_iff_exists']
    exact fun hnone => lastWrite?_eq_none_iff.mp hnone (List.mem_eraseDups.mp hkey)
  rw [hvalue]
  rfl

/-! ## Maps and writes -/

theorem insertMany_append :
    m.insertMany (writes ++ later) = (m.insertMany writes).insertMany later :=
  List.foldl_append

/-- Writing a key that is there replaces its value, and any other key goes to the end. -/
theorem insert_entries :
    (m.insert key value).entries =
      if key ∈ m.entries.map Prod.fst then
        m.entries.map fun entry => if entry.1 = key then (key, value) else entry
      else m.entries ++ [(key, value)] := by
  have hany : m.entries.any (·.1 = key) = true ↔ key ∈ m.entries.map Prod.fst := by
    simp
  rw [insert]
  split_ifs with h h' h'
  · rfl
  · exact absurd (hany.mp h) h'
  · exact absurd (hany.mpr h') h
  · rfl

theorem lastWrite?_concat :
    lastWrite? (writes ++ [(other, value)]) key =
      if key = other then some value else lastWrite? writes key := by
  rw [lastWrite?_append, lastWrite?_singleton]
  split_ifs <;> rfl

/-- One more write does to the reference what it does to a map. -/
theorem lastWins_concat :
    lastWins (writes ++ [(key, value)]) = (insert ⟨lastWins writes⟩ key value).entries := by
  have hkeys : ((writes ++ [(key, value)]).map Prod.fst).eraseDups =
      if key ∈ writes.map Prod.fst then (writes.map Prod.fst).eraseDups
      else (writes.map Prod.fst).eraseDups ++ [key] := by
    rw [List.map_append]
    exact eraseDups_concat key
  rw [insert_entries, keys_lastWins, lastWins, hkeys]
  simp only [List.mem_eraseDups]
  split_ifs with hkey
  · -- The key keeps its place, and its value is replaced there.
    rw [lastWins, List.map_filterMap]
    refine List.filterMap_congr fun other hother => ?_
    rcases hvalue : lastWrite? writes other with _ | old
    · exact absurd (List.mem_eraseDups.mp hother) (lastWrite?_eq_none_iff.mp hvalue)
    · rw [lastWrite?_concat, hvalue]
      split_ifs with heq
      · subst heq
        simp
      · simp [heq]
  · -- The other keys stay as they are, and the new one follows them.
    have hnew : lastWrite? (writes ++ [(key, value)]) key = some value := by
      rw [lastWrite?_concat, if_pos rfl]
    have hold : ∀ other ∈ (writes.map Prod.fst).eraseDups,
        lastWrite? (writes ++ [(key, value)]) other = lastWrite? writes other := by
      intro other hother
      have hne : other ≠ key := fun heq => hkey (heq ▸ List.mem_eraseDups.mp hother)
      rw [lastWrite?_concat, if_neg hne]
    rw [List.filterMap_append, lastWins, List.filterMap_cons, hnew]
    exact congrArg (· ++ [(key, value)])
      (List.filterMap_congr fun other hother => by rw [hold other hother])

/-- What a sequence of writes leaves in an empty map. -/
theorem toList_insertMany : (empty.insertMany writes).toList = lastWins writes := by
  rw [toList]
  induction writes using List.reverseRecOn with
  | nil => rfl
  | append_singleton writes write ih =>
    rw [lastWins_concat, ← ih, insertMany_append]
    rfl

/-- Replacing a value changes no key, so a test of the keys does not tell the difference. -/
theorem key_test_replace (p : String → Bool) :
    ((fun entry : String × Value => p entry.1) ∘
      fun entry => if entry.1 = key then (key, value) else entry) = fun entry => p entry.1 := by
  funext entry
  rw [Function.comp_apply]
  split_ifs with heq
  · rw [heq]
  · rfl

/-- Nothing is found just if no attribute has the key. -/
theorem get?_eq_none_iff : m.get? key = none ↔ key ∉ m.entries.map Prod.fst := by
  rw [get?, Option.map_eq_none_iff, List.find?_eq_none, List.mem_map, not_exists]
  exact forall_congr' fun entry => by simp

/-- A look-up finds what was written, and other keys as they were. -/
theorem get?_insert :
    (m.insert key value).get? other = if other = key then some value else m.get? other := by
  by_cases hkey : key ∈ m.entries.map Prod.fst
  · -- The look-up hits the same attribute as before.
    rw [get?, get?, insert_entries, if_pos hkey, List.find?_map,
      key_test_replace fun written => decide (written = other)]
    rcases hfind : List.find? (fun entry : String × Value => decide (entry.1 = other)) m.entries
      with _ | entry
    · have hnone : m.get? other = none := Option.map_eq_none_iff.mpr hfind
      have hne : other ≠ key := fun heq => get?_eq_none_iff.mp hnone (heq ▸ hkey)
      rw [if_neg hne]
      rfl
    · have hentry : entry.1 = other := by simpa using List.find?_some hfind
      rw [Option.map_some, Option.map_some, Option.map_some, hentry]
      split_ifs <;> rfl
  · rw [get?, insert_entries, if_neg hkey, List.find?_append, Option.map_or, ← get?]
    split_ifs with heq
    · -- The key was not there, so the new attribute is the first one found.
      rw [heq, get?_eq_none_iff.mpr hkey]
      simp
    · simp [Ne.symm heq]

/-- A look-up answers the last write to the key. -/
theorem get?_insertMany : (empty.insertMany writes).get? key = lastWrite? writes key := by
  induction writes using List.reverseRecOn with
  | nil => rfl
  | append_singleton writes write ih =>
    rw [lastWrite?_concat, ← ih, insertMany_append]
    exact get?_insert

end Telemetry.AttributeMap
