import Mathlib.Data.List.Basic

/-!
# Look-ups in lists of pairs

A look-up finds the first pair with the key, and from behind the last one. The latter is what counts
where later pairs replace earlier ones (`Keyed.lookup_reverse_eq_some_iff`).
-/

namespace Telemetry.Keyed

variable {κ α : Type} [BEq κ] [LawfulBEq κ] {pairs : List (κ × α)} {key : κ} {a : α}

theorem forall_key_bne_iff :
    (∀ pair ∈ pairs, (key != pair.1) = true) ↔ key ∉ pairs.map Prod.fst := by
  simp only [bne_iff_ne, List.mem_map, not_exists, not_and]
  exact forall₂_congr fun pair _ => ne_comm

theorem lookup_eq_none_iff : pairs.lookup key = none ↔ key ∉ pairs.map Prod.fst := by
  rw [List.lookup_eq_none_iff, forall_key_bne_iff]

theorem mem_of_lookup_eq_some (h : pairs.lookup key = some a) : (key, a) ∈ pairs := by
  obtain ⟨before, after, rfl, -⟩ := List.lookup_eq_some_iff.mp h
  exact List.mem_append_right _ List.mem_cons_self

theorem lookup_reverse_eq_none_iff :
    pairs.reverse.lookup key = none ↔ key ∉ pairs.map Prod.fst := by
  rw [lookup_eq_none_iff, List.map_reverse, List.mem_reverse]

/-- What is found first from behind is what stands last. -/
theorem lookup_reverse_eq_some_iff : pairs.reverse.lookup key = some a ↔
    ∃ before after, pairs = before ++ (key, a) :: after ∧ key ∉ after.map Prod.fst := by
  rw [List.lookup_eq_some_iff]
  constructor
  · rintro ⟨after, before, hpairs, hafter⟩
    refine ⟨before.reverse, after.reverse, ?_, ?_⟩
    · rw [← List.reverse_reverse pairs, hpairs]
      simp
    · rwa [List.map_reverse, List.mem_reverse, ← forall_key_bne_iff]
  · rintro ⟨before, after, rfl, hafter⟩
    refine ⟨after.reverse, before.reverse, by simp, ?_⟩
    rwa [forall_key_bne_iff, List.map_reverse, List.mem_reverse]

end Telemetry.Keyed
