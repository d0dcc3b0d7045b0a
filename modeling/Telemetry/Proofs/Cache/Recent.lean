import Mathlib.Data.Finset.Card
import Mathlib.Data.Finset.Dedup
import Mathlib.Data.List.Induction
import Telemetry.Proofs.Cache.Inclusion

/-!
# What was used last

A cache whose values follow from their keys, and that is asked for one key after another, holds just
the keys that were used last. So what it holds is said without the cache, by the list of its uses.

* `Recency.latest`: the keys of some uses, the one used last first.
* `Cache.Remembers`: a cache holds the first keys of that list, as many as it may. This is the
  invariant, kept by a hit (`Remembers.get`) and by a miss that is followed by a write
  (`Remembers.insert`).

Main statements: what a look-up answers (`Cache.Remembers.get_fst`), and how many entries there are
(`Cache.Remembers.size_eq`).
-/

namespace Telemetry

namespace Recency

variable {κ ν : Type} [DecidableEq κ] {key : κ} {keys uses : List κ}

/-! ## The keys used last -/

/-- The keys of some uses, each once, the one used last first. -/
def latest (uses : List κ) : List κ := uses.reverse.eraseDups

theorem filter_eraseDups (p : κ → Bool) (keys : List κ) :
    (keys.filter p).eraseDups = keys.eraseDups.filter p := by
  induction h : keys.length using Nat.strongRecOn generalizing keys with
  | ind n ih =>
  cases keys with
  | nil => rfl
  | cons first rest =>
    -- What is left after the first key and its repetitions is a shorter list.
    have hlength : (rest.filter fun key => !key == first).length < n := by
      have := List.length_filter_le (fun key => !key == first) rest
      rw [List.length_cons] at h
      omega
    have hrest := ih _ hlength _ rfl
    rw [List.filter_filter] at hrest
    rw [List.eraseDups_cons, List.filter_cons, List.filter_cons]
    split
    next hp =>
      rw [List.eraseDups_cons, List.filter_filter, ← hrest]
      simp only [Bool.and_comm]
    next hp =>
      rw [← hrest]
      refine congrArg List.eraseDups (List.filter_congr fun key _ => ?_)
      by_cases hkey : key = first
      · simp [hkey, hp]
      · simp [hkey]

theorem latest_nil : latest ([] : List κ) = [] := rfl

/-- A use brings its key to the front. -/
theorem latest_concat : latest (uses ++ [key]) = key :: (latest uses).filter (· ≠ key) := by
  rw [latest, List.reverse_concat, List.eraseDups_cons, filter_eraseDups, ← latest]
  congr 1
  refine List.filter_congr fun other _ => ?_
  by_cases hother : other = key <;> simp [hother]

theorem mem_latest : key ∈ latest uses ↔ key ∈ uses := by
  rw [latest, List.mem_eraseDups, List.mem_reverse]

theorem nodup_latest (uses : List κ) : (latest uses).Nodup := by
  induction uses using List.reverseRecOn with
  | nil => exact List.nodup_nil
  | append_singleton uses key ih =>
    rw [latest_concat, List.nodup_cons]
    exact ⟨by simp, ih.filter _⟩

/-- There are as many keys as the uses have distinct ones. -/
theorem length_latest : (latest uses).length = uses.toFinset.card := by
  rw [← List.toFinset_card_of_nodup (nodup_latest uses)]
  exact congrArg Finset.card (Finset.ext fun key => by simp [mem_latest])

/-- Another use of the key that was used last changes nothing. -/
theorem latest_concat_self : latest (uses ++ [key] ++ [key]) = latest (uses ++ [key]) := by
  rw [latest_concat, latest_concat, List.filter_cons_of_neg (by simp), List.filter_filter]
  simp

/-- Of the keys besides one, the first few are among the first few of all keys and one more. -/
theorem take_filter_take (h : keys.Nodup) (n : Nat) :
    ((keys.take (n + 1)).filter (· ≠ key)).take n = (keys.filter (· ≠ key)).take n := by
  induction keys generalizing n with
  | nil => rfl
  | cons first rest ih =>
    obtain ⟨hfirst, hrest⟩ := List.nodup_cons.mp h
    rw [List.take_succ_cons]
    by_cases hkey : first = key
    · -- The key is the first one, and it does not come again.
      subst hkey
      have hself : ∀ {keys : List κ}, keys ⊆ rest → keys.filter (· ≠ first) = keys := by
        intro keys hsub
        refine List.filter_eq_self.mpr fun other hother => decide_eq_true ?_
        rintro rfl
        exact hfirst (hsub hother)
      rw [List.filter_cons_of_neg (by simp), List.filter_cons_of_neg (by simp),
        hself (List.take_subset n rest), hself (List.Subset.refl rest), List.take_take,
        Nat.min_self]
    · rw [List.filter_cons_of_pos (by simpa using hkey),
        List.filter_cons_of_pos (by simpa using hkey)]
      cases n with
      | zero => rfl
      | succ n => rw [List.take_succ_cons, List.take_succ_cons, ih hrest]

/-- The keys that fit are found from those that fitted before. -/
theorem take_latest_concat (capacity : Nat) :
    (latest (uses ++ [key])).take capacity =
      (key :: ((latest uses).take capacity).filter (· ≠ key)).take capacity := by
  rw [latest_concat]
  cases capacity with
  | zero => rfl
  | succ n => rw [List.take_succ_cons, List.take_succ_cons, take_filter_take (nodup_latest uses)]

/-! ## Entries that follow from their keys -/

variable {make : κ → ν} {capacity : Nat}

/-- The entries that keys give, each with the value that its key has. -/
def ofKeys (make : κ → ν) (keys : List κ) : Recency κ ν := keys.map fun key => (key, make key)

theorem lookup_ofKeys :
    (ofKeys make keys).lookup key = if key ∈ keys then some (make key) else none := by
  split
  next hkey => exact List.lookup_graph make hkey
  next hkey =>
    rw [Keyed.lookup_eq_none_iff, ofKeys, List.map_map]
    simpa using hkey

/-- Writing the value of a key does to the entries what a use of the key does to the keys. -/
theorem write_ofKeys :
    (ofKeys make ((latest uses).take capacity)).write capacity key (make key) =
      ofKeys make ((latest (uses ++ [key])).take capacity) := by
  have hlength : (ofKeys make ((latest uses).take capacity)).length ≤ capacity := by
    rw [ofKeys, List.length_map]
    exact List.length_take_le _ _
  rw [write_eq_take hlength, take_latest_concat, ofKeys, ofKeys, without, List.filter_map,
    List.map_take, List.map_cons]
  rfl

end Recency

namespace Cache

open Recency (latest ofKeys)

variable {κ ν : Type} {make : κ → ν} {capacity : Nat} {c : Cache κ ν} {key : κ} {uses : List κ}

/-! ## Caches that remember what was used last -/

variable [DecidableEq κ]

/-- A cache for at most `capacity` entries holds the keys that were used last, each with the value
that it has. -/
def Remembers (make : κ → ν) (capacity : Nat) (uses : List κ) (c : Cache κ ν) : Prop :=
  Matches capacity c (ofKeys make ((latest uses).take capacity))

/-- A new cache was not used. -/
theorem remembers_nil : Remembers make capacity [] { capacity } := by
  rw [Remembers, Recency.latest_nil, List.take_nil]
  exact ⟨rfl, holds_nil⟩

/-- A look-up finds the keys that were used last. -/
theorem Remembers.get_fst (h : c.Remembers make capacity uses) :
    (c.get key).1 = if key ∈ (latest uses).take capacity then some (make key) else none := by
  rw [(Matches.get h key).1, ← Recency.lookup_ofKeys, Recency.get]
  cases (ofKeys make ((latest uses).take capacity)).lookup key <;> rfl

/-- A hit is a use of the key. -/
theorem Remembers.get (h : c.Remembers make capacity uses)
    (hkey : key ∈ (latest uses).take capacity) :
    (c.get key).2.Remembers make capacity (uses ++ [key]) := by
  have hget := (Matches.get h key).2
  rw [Recency.get, Recency.lookup_ofKeys, if_pos hkey] at hget
  rwa [Remembers, ← Recency.write_ofKeys]

/-- Writing the value of a key is a use of the key. -/
theorem Remembers.insert (h : c.Remembers make capacity uses) (key : κ) :
    (c.insert key (make key)).2.Remembers make capacity (uses ++ [key]) := by
  rw [Remembers, ← Recency.write_ofKeys]
  exact (Matches.insert h key (make key)).2

/-- Another use of the key that was used last is no use. -/
theorem Remembers.again (h : c.Remembers make capacity (uses ++ [key])) :
    c.Remembers make capacity (uses ++ [key] ++ [key]) := by
  rw [Remembers, Recency.latest_concat_self]
  exact h

/-- What is held is listed by use. -/
theorem Remembers.recency_eq (h : c.Remembers make capacity uses) :
    c.recency = ((latest uses).take capacity).map fun key => (key, make key) :=
  h.2.recency_eq

/-- There are as many entries as distinct keys, but no more than there may be. -/
theorem Remembers.size_eq (h : c.Remembers make capacity uses) :
    c.size = min capacity uses.toFinset.card := by
  rw [h.2.size_eq, ofKeys, List.length_map, List.length_take, Recency.length_latest]

end Cache

end Telemetry
