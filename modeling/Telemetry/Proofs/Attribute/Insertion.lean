import Mathlib.Data.Finset.Card
import Mathlib.Data.Finset.Dedup
import Telemetry.Proofs.Attribute.Order

/-!
# Attributes that are inserted one after the other

An attribute map that was empty at first shows two things of the writes that were made to it: which
write of a key was the first, by the place of the key, and which was the last, by its value. Both
are said here of the writes alone.

* `AttributeMap.WrittenLast`: the value that a key is given last (`get?_insertMany_eq_some_iff`).
* `AttributeMap.pairwise_idxOf_insertMany`: the keys stand in the order of their first writes.
* `AttributeMap.sameButOrder_of_perm`: distinct keys may be written in any order.

Main statement: `AttributeMap.first_place_last_value`.
-/

namespace Telemetry.AttributeMap

open Attribute (Value)

variable {key : String} {value : Value} {writes writes' : List (String × Value)}

/-- The last write to a key writes the value. -/
def WrittenLast (writes : List (String × Value)) (key : String) (value : Value) : Prop :=
  ∃ before after, writes = before ++ (key, value) :: after ∧ key ∉ after.map Prod.fst

theorem lastWrite?_eq_some_iff_writtenLast :
    lastWrite? writes key = some value ↔ WrittenLast writes key value :=
  Keyed.lookup_reverse_eq_some_iff

theorem get?_insertMany_eq_some_iff :
    (empty.insertMany writes).get? key = some value ↔ WrittenLast writes key value := by
  rw [get?_insertMany, lastWrite?_eq_some_iff_writtenLast]

theorem get?_insertMany_eq_none_iff :
    (empty.insertMany writes).get? key = none ↔ key ∉ writes.map Prod.fst := by
  rw [get?_insertMany, lastWrite?_eq_none_iff]

theorem keys_insertMany :
    (empty.insertMany writes).toList.map Prod.fst = (writes.map Prod.fst).eraseDups := by
  rw [toList_insertMany, keys_lastWins]

/-- The keys stand in the order in which they were first written. -/
theorem pairwise_idxOf_insertMany :
    ((empty.insertMany writes).toList.map Prod.fst).Pairwise fun key other =>
      (writes.map Prod.fst).idxOf key < (writes.map Prod.fst).idxOf other := by
  rw [keys_insertMany]
  exact pairwise_idxOf_eraseDups _

/-- There are as many attributes as keys were written. -/
theorem size_insertMany :
    (empty.insertMany writes).size = (writes.map Prod.fst).toFinset.card := by
  calc (empty.insertMany writes).size
      = ((empty.insertMany writes).toList.map Prod.fst).length := (List.length_map _).symm
    _ = ((empty.insertMany writes).toList.map Prod.fst).toFinset.card :=
        (List.toFinset_card_of_nodup nodup_keys_insertMany).symm
    _ = (writes.map Prod.fst).toFinset.card := by
        rw [keys_insertMany]
        exact congrArg Finset.card (Finset.ext fun key => by simp)

/-- Writes to distinct keys leave the same attributes in any order. -/
theorem sameButOrder_of_perm (hnodup : (writes.map Prod.fst).Nodup) (hperm : writes.Perm writes') :
    (empty.insertMany writes).SameButOrder (empty.insertMany writes') :=
  sameButOrder_insertMany fun _ =>
    lastWrite?_congr (consistent_of_nodup hnodup) fun _ => hperm.mem_iff

/-- Writes to an empty map leave each key once, in the order of the first writes, and its value is
the one that was written last. A look-up answers this value, or nothing if the key was not written,
and the attributes are listed with just these keys and values. If the keys are distinct, another
order of the writes changes the order of the attributes and nothing else. -/
theorem first_place_last_value (writes : List (String × Value)) :
    let m := empty.insertMany writes
    let written := writes.map Prod.fst
    let keys := m.toList.map Prod.fst
    keys.Nodup ∧ (∀ key, key ∈ keys ↔ key ∈ written) ∧
      (keys.Pairwise fun key other => written.idxOf key < written.idxOf other) ∧
      (∀ key value, m.get? key = some value ↔ WrittenLast writes key value) ∧
      (∀ key, m.get? key = none ↔ key ∉ written) ∧
      m.size = written.toFinset.card ∧
      (∀ key value, (key, value) ∈ m.toList ↔ WrittenLast writes key value) ∧
      ∀ writes', written.Nodup → writes.Perm writes' →
        m.SameButOrder (empty.insertMany writes') := by
  refine ⟨nodup_keys_insertMany, fun key => ?_, pairwise_idxOf_insertMany,
    fun _ _ => get?_insertMany_eq_some_iff, fun _ => get?_insertMany_eq_none_iff, size_insertMany,
    fun key value => ?_, fun _ => sameButOrder_of_perm⟩
  · rw [keys_insertMany, List.mem_eraseDups]
  · rw [mem_toList_insertMany, lastWrite?_eq_some_iff_writtenLast]

/-- A key that is written again stays in front of one that was written in between. -/
theorem rewritten_kept_in_place :
    let m := empty.insertMany [("b", .int 1), ("a", .int 2), ("b", .int 3)]
    m.get? "b" = some (.int 3) ∧ m.size = 2 ∧ m.toList.map Prod.fst = ["b", "a"] ∧
      (empty.insertMany [("b", .int 1), ("a", .int 2)]).SameButOrder
        (empty.insertMany [("a", .int 2), ("b", .int 1)]) := by
  intro m
  obtain ⟨-, -, -, hget, -, hsize, -⟩ :=
    first_place_last_value [("b", .int 1), ("a", .int 2), ("b", .int 3)]
  obtain ⟨-, -, -, -, -, -, -, hperm⟩ := first_place_last_value [("b", .int 1), ("a", .int 2)]
  refine ⟨(hget "b" (.int 3)).mpr ⟨[("b", .int 1), ("a", .int 2)], [], rfl, ?_⟩, hsize, rfl, ?_⟩
  · exact List.not_mem_nil
  · exact hperm _ (by decide) (List.Perm.swap _ _ _)

end Telemetry.AttributeMap
