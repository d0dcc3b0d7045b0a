import Mathlib.Data.String.Basic
import Std.Data.TreeMap.Lemmas
import Telemetry.Proofs.Attribute.LastWrite

/-!
# The order of writes

Which write of a key is the last depends on the order of the writes, unless they write only one
value to each key. Blocks of writes that do so may be reordered inside, whatever the other blocks
are: the maps that they leave differ in nothing but their order.

* `AttributeMap.Consistent`: no key has two values.
* `AttributeMap.SameButOrder`: two maps with the same values.
* `AttributeMap.sameButOrder_blocks`: blocks with the same last writes leave such maps.

Besides, what distinct keys leave (`AttributeMap.toList_insertMany_of_nodup`), and what writes leave
alone (`AttributeMap.filter_insertMany`).
-/

namespace Telemetry.AttributeMap

open Attribute (Value)

variable {α : Type} {m m' : AttributeMap} {key : String} {value : Value}
  {writes writes' : List (String × Value)}

/-! ## Consistent pairs -/

/-- No key is paired with two values. -/
def Consistent (pairs : List (String × α)) : Prop :=
  ∀ key a b, (key, a) ∈ pairs → (key, b) ∈ pairs → a = b

theorem consistent_of_nodup {pairs : List (String × α)} (h : (pairs.map Prod.fst).Nodup) :
    Consistent pairs := by
  intro key a b ha hb
  exact congrArg Prod.snd (List.inj_on_of_nodup_map h ha hb rfl)

/-- A map lists each of its keys once. -/
theorem nodup_keys_toList (entries : Std.TreeMap String α) :
    (entries.toList.map Prod.fst).Nodup := by
  refine List.pairwise_map.mpr (Std.TreeMap.distinct_keys_toList.imp fun hne heq => hne ?_)
  rw [heq]
  exact Std.ReflCmp.compare_self

/-- In consistent pairs a look-up finds what there is, wherever it stands. -/
theorem lookup_eq_some_iff {pairs : List (String × α)} (h : Consistent pairs) {a : α} :
    pairs.lookup key = some a ↔ (key, a) ∈ pairs := by
  refine ⟨Keyed.mem_of_lookup_eq_some, fun hmem => ?_⟩
  rcases hlookup : pairs.lookup key with _ | b
  · exact absurd (List.mem_map_of_mem hmem) (Keyed.lookup_eq_none_iff.mp hlookup)
  · rw [h key a b hmem (Keyed.mem_of_lookup_eq_some hlookup)]

theorem Consistent.reverse (h : Consistent writes) : Consistent writes.reverse := by
  intro key a b ha hb
  exact h key a b (List.mem_reverse.mp ha) (List.mem_reverse.mp hb)

theorem lastWrite?_eq_some_iff (h : Consistent writes) :
    lastWrite? writes key = some value ↔ (key, value) ∈ writes := by
  rw [lastWrite?, lookup_eq_some_iff h.reverse, List.mem_reverse]

/-- Consistent writes have the same last writes in any order, also if some are repeated. -/
theorem lastWrite?_congr (h : Consistent writes)
    (hsame : ∀ write, write ∈ writes ↔ write ∈ writes') :
    lastWrite? writes key = lastWrite? writes' key := by
  have h' : Consistent writes' := fun key a b ha hb =>
    h key a b ((hsame _).mpr ha) ((hsame _).mpr hb)
  refine Option.ext fun value => ?_
  rw [lastWrite?_eq_some_iff h, lastWrite?_eq_some_iff h', hsame]

/-- Blocks with the same last writes have the same last writes in a row. -/
theorem lastWrite?_flatten_congr {blocks blocks' : List (List (String × Value))}
    (h : List.Forall₂ (fun block block' => ∀ key, lastWrite? block key = lastWrite? block' key)
      blocks blocks') :
    lastWrite? blocks.flatten key = lastWrite? blocks'.flatten key := by
  induction h with
  | nil => rfl
  | cons hblock _ ih =>
    rw [List.flatten_cons, List.flatten_cons, lastWrite?_append, lastWrite?_append, ih, hblock]

/-! ## Maps in another order -/

/-- The attributes, sorted by key. -/
def byKey (m : AttributeMap) : List (String × Value) :=
  m.toList.mergeSort fun entry other => entry.1 ≤ other.1

/-- Two maps that hold the same values under the same keys, and so the same attributes when these
are sorted. -/
structure SameButOrder (m m' : AttributeMap) : Prop where
  get? : ∀ key, m.get? key = m'.get? key
  toList : m.toList.Perm m'.toList
  byKey : m.byKey = m'.byKey

/-- Attributes with distinct keys are the same once they are sorted, in whatever order they were. -/
theorem byKey_eq (hnodup : (m.toList.map Prod.fst).Nodup) (hperm : m.toList.Perm m'.toList) :
    m.byKey = m'.byKey := by
  have hsorted : ∀ m : AttributeMap,
      m.byKey.Pairwise fun entry other => decide (entry.1 ≤ other.1) = true :=
    fun m => List.pairwise_mergeSort
      (fun a b c hab hbc => decide_eq_true
        ((of_decide_eq_true hab).trans (of_decide_eq_true hbc)))
      (fun a b => by simpa using le_total a.1 b.1) m.toList
  have hsame : m.byKey.Perm m'.byKey :=
    (List.mergeSort_perm _ _).trans (hperm.trans (List.mergeSort_perm _ _).symm)
  refine List.Perm.eq_of_pairwise ?_ (hsorted m) (hsorted m') hsame
  -- Two attributes with one key are one attribute.
  intro entry other hentry hother hle hge
  have hkey : entry.1 = other.1 := le_antisymm (of_decide_eq_true hle) (of_decide_eq_true hge)
  have hentry' : entry ∈ m.toList := (List.mergeSort_perm _ _).subset hentry
  have hother' : other ∈ m.toList := hperm.symm.subset ((List.mergeSort_perm _ _).subset hother)
  exact List.inj_on_of_nodup_map hnodup hentry' hother' hkey

/-- What writes leave is what is written last. -/
theorem mem_toList_insertMany :
    (key, value) ∈ (empty.insertMany writes).toList ↔ lastWrite? writes key = some value := by
  rw [toList_insertMany, lastWins, List.mem_filterMap]
  constructor
  · rintro ⟨written, -, hvalue⟩
    obtain ⟨found, hfound, heq⟩ := Option.map_eq_some_iff.mp hvalue
    cases heq
    exact hfound
  · intro hvalue
    refine ⟨key, List.mem_eraseDups.mpr ?_, by rw [hvalue]; rfl⟩
    by_contra hkey
    rw [lastWrite?_eq_none_iff.mpr hkey] at hvalue
    cases hvalue

theorem nodup_keys_insertMany : ((empty.insertMany writes).toList.map Prod.fst).Nodup := by
  rw [toList_insertMany, keys_lastWins]
  exact nodup_eraseDups _

/-- Writes with the same last writes leave maps that differ in nothing but their order. -/
theorem sameButOrder_insertMany (h : ∀ key, lastWrite? writes key = lastWrite? writes' key) :
    (empty.insertMany writes).SameButOrder (empty.insertMany writes') := by
  have hperm : (empty.insertMany writes).toList.Perm (empty.insertMany writes').toList := by
    refine (List.perm_ext_iff_of_nodup nodup_keys_insertMany.of_map
      nodup_keys_insertMany.of_map).mpr fun (key, value) => ?_
    rw [mem_toList_insertMany, mem_toList_insertMany, h]
  exact
    { get? := fun key => by rw [get?_insertMany, get?_insertMany, h]
      toList := hperm
      byKey := byKey_eq nodup_keys_insertMany hperm }

/-- Blocks may be replaced by blocks with the same last writes. -/
theorem sameButOrder_blocks {blocks blocks' : List (List (String × Value))}
    (h : List.Forall₂ (fun block block' => ∀ key, lastWrite? block key = lastWrite? block' key)
      blocks blocks') :
    (empty.insertMany blocks.flatten).SameButOrder (empty.insertMany blocks'.flatten) :=
  sameButOrder_insertMany fun _ => lastWrite?_flatten_congr h

/-! ## Distinct keys, and keys that are not written -/

/-- Writes to distinct keys stay as they are. -/
theorem toList_insertMany_of_nodup (h : (writes.map Prod.fst).Nodup) :
    (empty.insertMany writes).toList = writes := by
  induction writes using List.reverseRecOn with
  | nil => rfl
  | append_singleton writes write ih =>
    rw [List.map_append, List.nodup_append] at h
    obtain ⟨hwrites, -, hfresh⟩ := h
    have hkey : write.1 ∉ (empty.insertMany writes).entries.map Prod.fst := by
      rw [show (empty.insertMany writes).entries = writes from ih hwrites]
      exact fun hmem => hfresh _ hmem _ (List.mem_singleton_self _) rfl
    rw [insertMany_append, toList]
    exact insert_entries.trans ((if_neg hkey).trans (congrArg (· ++ [write]) (ih hwrites)))

/-- A write does not touch the attributes of other keys. -/
theorem filter_insert (p : String → Bool) (h : p key = false) :
    (m.insert key value).toList.filter (fun entry => p entry.1) =
      m.toList.filter fun entry => p entry.1 := by
  rw [toList, insert_entries]
  split_ifs
  · -- The entry of the key is dropped before and after, and all others are kept as they are.
    rw [List.filter_map, key_test_replace]
    refine (List.map_congr_left fun entry hentry => ?_).trans (List.map_id _)
    have hne : entry.1 ≠ key := by
      rintro rfl
      exact Bool.false_ne_true (h.symm.trans (List.mem_filter.mp hentry).2)
    rw [if_neg hne]
    rfl
  · rw [List.filter_append, List.filter_cons_of_neg (by simp [h]), List.filter_nil, List.append_nil]
    rfl

/-- Writes do not touch the attributes of keys that none of them writes. -/
theorem filter_insertMany (p : String → Bool) (h : ∀ write ∈ writes, p write.1 = false) :
    (m.insertMany writes).toList.filter (fun entry => p entry.1) =
      m.toList.filter fun entry => p entry.1 := by
  induction writes generalizing m with
  | nil => rfl
  | cons write rest ih =>
    exact (ih fun later hlater => h later (List.mem_cons_of_mem _ hlater)).trans
      (filter_insert p (h write List.mem_cons_self))

end Telemetry.AttributeMap
