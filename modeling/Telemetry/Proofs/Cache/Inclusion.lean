import Telemetry.Proofs.Cache.Script

/-!
# Caches of different capacities

Two caches that are put to the same uses from the start, of which one may hold more entries than the
other. The lists of both, ordered by use, stay nested: the smaller one is what is left of the larger
one after some entries were left out, and no more of them than the capacities differ by.

* `Recency.write_eq_take`: writing an entry brings it to the front and cuts the list off at the
  capacity.
* `Recency.Nested`: the invariant, kept by `Nested.write`, `Nested.get` and `Nested.without`.
* `Cache.Use`: a use that does not depend on what earlier ones answered, so that two caches can be
  put to the same.

Main statement: a cache of a larger capacity holds what one of a smaller capacity holds, in the
same order by use, and if the values do not depend on what is held, with the same values
(`Cache.larger_holds_smaller`).
-/

namespace Telemetry

namespace Recency

/-! ## Nested lists -/

section Sublists

variable {α : Type} {small large : List α}

/-- Cutting off nested lists leaves them nested, if the longer one is left at least as much longer
as it was. -/
theorem take_sublist_take {n n' : Nat} (h : small.Sublist large) (hn : n ≤ n')
    (hlength : large.length ≤ small.length + (n' - n)) :
    (small.take n).Sublist (large.take n') := by
  induction h generalizing n n' with
  | slnil => simp
  | @cons small large a h ih =>
    -- The longer list has an element of its own here, so it may be left one element more.
    have hle := h.length_le
    rw [List.length_cons] at hlength
    obtain ⟨n', rfl⟩ : ∃ k, n' = k + 1 := ⟨n' - 1, by omega⟩
    rw [List.take_succ_cons]
    exact (ih (by omega) (by omega)).cons a
  | @cons_cons small large a h ih =>
    rcases n with _ | n
    · simp
    · obtain ⟨n', rfl⟩ : ∃ k, n' = k + 1 := ⟨n' - 1, by omega⟩
      simp only [List.length_cons] at hlength
      rw [List.take_succ_cons, List.take_succ_cons]
      exact (ih (by omega) (by omega)).cons_cons a

/-- Filtering leaves out at least as much of the longer one of nested lists. -/
theorem length_filter_add_le (h : small.Sublist large) (p : α → Bool) :
    (large.filter p).length + small.length ≤ (small.filter p).length + large.length := by
  induction h with
  | slnil => simp
  | cons a h ih =>
    rw [List.filter_cons, List.length_cons]
    split
    · rw [List.length_cons]
      omega
    · omega
  | cons_cons a h ih =>
    rw [List.filter_cons, List.filter_cons, List.length_cons, List.length_cons]
    split
    · rw [List.length_cons, List.length_cons]
      omega
    · omega

end Sublists

variable {κ ν : Type}
variable {capacity capacity' : Nat} {key : κ} {value : ν} {entries small large : Recency κ ν}

/-- The lists of two caches, ordered by use, of which one may hold more: the entries of the smaller
one are among those of the larger one in the same order, and those that it lacks are no more than
the capacities differ by. -/
structure Nested (capacity capacity' : Nat) (small large : Recency κ ν) : Prop where
  sublist : small.Sublist large
  length_le : large.length ≤ small.length + (capacity' - capacity)
  small_length_le : small.length ≤ capacity
  large_length_le : large.length ≤ capacity'
  nodup_keys : (large.map Prod.fst).Nodup

/-- Empty lists are nested. -/
theorem nested_nil : Nested capacity capacity' ([] : Recency κ ν) [] where
  sublist := .slnil
  length_le := Nat.zero_le _
  small_length_le := Nat.zero_le _
  large_length_le := Nat.zero_le _
  nodup_keys := List.nodup_nil

/-- Changing the values changes neither the keys nor their order. -/
theorem keys_mapValues {μ : Type} {f : ν → μ} :
    (entries.mapValues f).map Prod.fst = entries.map Prod.fst := by
  rw [mapValues, List.map_map]
  rfl

theorem length_mapValues {μ : Type} {f : ν → μ} :
    (entries.mapValues f).length = entries.length :=
  List.length_map _

variable [DecidableEq κ]

/-- Leaving out a key that has an entry leaves out at least that one. -/
theorem length_without_lt (h : (entries.lookup key).isSome) :
    (without key entries).length < entries.length := by
  obtain ⟨entry, hentry, hkey⟩ := List.lookup_isSome_iff.mp h
  refine List.length_filter_lt_length_iff_exists.mpr ⟨entry, hentry, ?_⟩
  simpa using (beq_iff_eq.mp hkey).symm

/-- A list that is not too long is written to by bringing the entry to the front and cutting off
what exceeds the capacity. -/
theorem write_eq_take (h : entries.length ≤ capacity) :
    write capacity key value entries = ((key, value) :: without key entries).take capacity := by
  have hnew : ¬ (entries.lookup key).isSome → without key entries = entries := fun hnone =>
    without_eq_self (Option.not_isSome_iff_eq_none.mp hnone)
  rw [write]
  split_ifs with hzero hheld hroom
  · -- Without capacity there are no entries.
    subst hzero
    simpa using h
  · -- An entry that moves to the front leaves its place to the others.
    have := length_without_lt hheld
    rw [List.take_of_length_le]
    rw [List.length_cons]
    omega
  · rw [hnew hheld, List.take_of_length_le]
    rw [List.length_cons]
    omega
  · -- The list is full, and the new entry costs the last one its place.
    obtain ⟨n, rfl⟩ : ∃ n, capacity = n + 1 := ⟨capacity - 1, by omega⟩
    have hn : n = entries.length - 1 := by omega
    rw [hnew hheld, List.take_succ_cons, List.dropLast_eq_take, hn]

/-- A key that is written has one entry, if every other key has one. -/
theorem nodup_keys_front (h : (entries.map Prod.fst).Nodup) :
    (((key, value) :: without key entries).map Prod.fst).Nodup := by
  rw [List.map_cons, List.nodup_cons]
  refine ⟨?_, h.sublist (List.filter_sublist.map _)⟩
  simp [without]

/-- What the smaller list has for a key, the larger one has. -/
theorem Nested.lookup_eq_some (h : Nested capacity capacity' small large)
    (hsmall : small.lookup key = some value) : large.lookup key = some value := by
  obtain ⟨value', hlarge⟩ : ∃ value', large.lookup key = some value' :=
    Option.isSome_iff_exists.mp (h.sublist.lookup_isSome (by simp [hsmall]))
  -- The larger list has one entry for the key, so it is the one of the smaller list.
  have heq : (key, value') = (key, value) :=
    List.inj_on_of_nodup_map h.nodup_keys (Keyed.mem_of_lookup_eq_some hlarge)
      (h.sublist.subset (Keyed.mem_of_lookup_eq_some hsmall)) rfl
  rw [hlarge, (Prod.mk.inj heq).2]

/-- What asking for a key leaves in the list, if its value is made without the list. -/
theorem getOrInsert_ofOutcome {make : Except Panic ν} :
    (getOrInsert capacity key (Attempt.ofOutcome make) entries).2 =
      match entries.lookup key, make with
      | some value, _ | none, .ok value => entries.write capacity key value
      | none, .error _ => entries := by
  rw [getOrInsert, Attempt.bind_apply, Attempt.modifyGet_apply, get]
  rcases entries.lookup key with _ | held
  · rcases make with panic | made <;> rfl
  · rfl

/-! ## What keeps lists nested -/

/-- Writing the same entry to both lists. -/
theorem Nested.write (h : Nested capacity capacity' small large) (hle : capacity ≤ capacity')
    (key : κ) (value : ν) :
    Nested capacity capacity' (small.write capacity key value)
      (large.write capacity' key value) := by
  have hlength : ((key, value) :: without key large).length ≤
      ((key, value) :: without key small).length + (capacity' - capacity) := by
    have hfilter := length_filter_add_le h.sublist fun entry => decide (entry.1 ≠ key)
    have := h.length_le
    simp only [without, List.length_cons]
    omega
  rw [write_eq_take h.small_length_le, write_eq_take h.large_length_le]
  exact {
    sublist := take_sublist_take ((h.sublist.filter _).cons_cons _) hle hlength
    length_le := by
      simp only [List.length_take]
      omega
    small_length_le := List.length_take_le _ _
    large_length_le := List.length_take_le _ _
    nodup_keys := (nodup_keys_front h.nodup_keys).sublist ((List.take_sublist _ _).map _) }

/-- Moving an entry that only the larger list has to the front there. -/
theorem Nested.write_large (h : Nested capacity capacity' small large)
    (hsmall : small.lookup key = none) (hlarge : (large.lookup key).isSome) :
    Nested capacity capacity' small (large.write capacity' key value) := by
  have hlt := length_without_lt hlarge
  have hlength := h.length_le
  have hbound := h.large_length_le
  rw [write_eq_take hbound, List.take_of_length_le (by rw [List.length_cons]; omega)]
  refine {
    sublist := ?_
    length_le := by rw [List.length_cons]; omega
    small_length_le := h.small_length_le
    large_length_le := by rw [List.length_cons]; omega
    nodup_keys := nodup_keys_front h.nodup_keys }
  -- The smaller list does not have the key, so it is nested in what is left of the larger one.
  rw [← without_eq_self hsmall]
  exact (h.sublist.filter _).cons _

/-- Looking up a key in both lists. There may be a hit in the larger list alone. -/
theorem Nested.get (h : Nested capacity capacity' small large) (hle : capacity ≤ capacity')
    (key : κ) :
    Nested capacity capacity' (small.get capacity key).2 (large.get capacity' key).2 := by
  rw [Recency.get, Recency.get]
  rcases hsmall : small.lookup key with _ | value
  · rcases hlarge : large.lookup key with _ | value'
    · exact h
    · exact h.write_large hsmall (by rw [hlarge]; rfl)
  · rw [h.lookup_eq_some hsmall]
    exact h.write hle key value

/-- Leaving out a key from both lists. -/
theorem Nested.without (h : Nested capacity capacity' small large) (key : κ) :
    Nested capacity capacity' (small.without key) (large.without key) where
  sublist := h.sublist.filter _
  length_le := by
    have hfilter := length_filter_add_le h.sublist fun entry => decide (entry.1 ≠ key)
    have := h.length_le
    simp only [Recency.without]
    omega
  small_length_le := Nat.le_trans (List.length_filter_le _ _) h.small_length_le
  large_length_le := Nat.le_trans (List.length_filter_le _ _) h.large_length_le
  nodup_keys := h.nodup_keys.sublist (List.filter_sublist.map _)

end Recency

namespace Cache

variable {κ ν : Type} [DecidableEq κ]

/-! ## Uses of a cache -/

/-- A use of a cache that is the same whatever earlier uses answered. -/
inductive Use (κ ν : Type) : Type 1 where
  /-- Stores a value. -/
  | insert (key : κ) (value : ν)
  /-- Looks up a key. -/
  | get (key : κ)
  /-- Removes a key. -/
  | remove (key : κ)
  /-- Changes the value of a key in place. The change may panic half way. -/
  | update {α : Type} (key : κ) (fresh : ν) (change : Attempt ν α)
  /-- Looks up a key, whose value is made without the cache if there is none. Making it may
  panic. -/
  | getOrInsert (key : κ) (make : Except Panic ν)

namespace Use

/-- What a use leaves in the cache, whether it panics or not. -/
def apply (c : Cache κ ν) : Use κ ν → Cache κ ν
  | insert key value => (c.insert key value).2
  | get key => (c.get key).2
  | remove key => (c.remove key).2
  | update key fresh change => (Cache.update key fresh change c).2
  | getOrInsert key make => (Cache.getOrInsert .id key (Attempt.ofOutcome make) c).2

/-- Whether the use stores no value but one that it is given. -/
def IsPlain : Use κ ν → Prop
  | insert _ _ | get _ | remove _ => True
  | update _ _ _ | getOrInsert _ _ => False

/-- What a use leaves in a list ordered by use, of at most `capacity` entries. -/
def ideal (capacity : Nat) (entries : Recency κ ν) : Use κ ν → Recency κ ν
  | insert key value => entries.write capacity key value
  | get key => (entries.get capacity key).2
  | remove key => entries.without key
  | update key fresh change => (Recency.update capacity key fresh change entries).2
  | getOrInsert key make =>
    (Recency.getOrInsert capacity key (Attempt.ofOutcome make) entries).2

/-- What a use leaves of the keys, ordered by use. A key that is given a value moves to the front,
whatever the value is. -/
def mark (capacity : Nat) (keys : Recency κ Unit) : Use κ ν → Recency κ Unit
  | insert key _ | update key _ _ | getOrInsert key (.ok _) => keys.write capacity key ()
  | get key | getOrInsert key (.error _) => (keys.get capacity key).2
  | remove key => keys.without key

variable {use : Use κ ν} {capacity capacity' : Nat}

/-- The keys that a use leaves, and their order, do not depend on the values. -/
theorem mapValues_ideal {entries : Recency κ ν} :
    (use.ideal capacity entries).mapValues (fun _ => ()) =
      use.mark capacity (entries.mapValues fun _ => ()) := by
  rcases use with ⟨key, value⟩ | key | key | ⟨key, fresh, change⟩ | ⟨key, make⟩
  · exact Recency.write_mapValues
  · exact Recency.get_mapValues
  · exact Recency.without_mapValues
  · exact Recency.write_mapValues
  · -- A hit moves the key to the front, and so does a miss unless making the value panics.
    rw [ideal, Recency.getOrInsert_ofOutcome]
    rcases make with panic | made
    · rw [mark, Recency.get, Recency.lookup_mapValues]
      rcases entries.lookup key with _ | held
      · rfl
      · exact Recency.write_mapValues
    · rcases entries.lookup key <;> exact Recency.write_mapValues

/-- The keys of two caches that are put to the same use stay nested. -/
theorem nested_mark {small large : Recency κ Unit}
    (h : Recency.Nested capacity capacity' small large) (hle : capacity ≤ capacity') :
    Recency.Nested capacity capacity' (use.mark capacity small) (use.mark capacity' large) := by
  rcases use with ⟨key, value⟩ | key | key | ⟨key, fresh, change⟩ | ⟨key, panic | value⟩
  · exact h.write hle key ()
  · exact h.get hle key
  · exact h.without key
  · exact h.write hle key ()
  · exact h.get hle key
  · exact h.write hle key ()

/-- If the use stores no value but a given one, the entries stay nested, values and all. -/
theorem nested_ideal {small large : Recency κ ν}
    (h : Recency.Nested capacity capacity' small large) (hle : capacity ≤ capacity')
    (hplain : use.IsPlain) :
    Recency.Nested capacity capacity' (use.ideal capacity small) (use.ideal capacity' large) := by
  rcases use with ⟨key, value⟩ | key | key | _ | _
  · exact h.write hle key value
  · exact h.get hle key
  · exact h.without key
  · exact hplain.elim
  · exact hplain.elim

end Use

variable {capacity capacity' : Nat}

/-- A use does to a cache what it does to the list of its entries. -/
theorem Matches.apply {c : Cache κ ν} {entries : Recency κ ν} (h : Matches capacity c entries)
    (use : Use κ ν) : Matches capacity (use.apply c) (use.ideal capacity entries) := by
  rcases use with ⟨key, value⟩ | key | key | ⟨key, fresh, change⟩ | ⟨key, make⟩
  · exact (h.insert key value).2
  · exact (h.get key).2
  · exact (h.remove key).2
  · exact (simulates_update key fresh change h).2
  · exact (Script.simulates_getOrInsert key (Attempt.simulates_ofOutcome make) h).2

/-! ## Two caches, side by side -/

/-- A cache of the given capacity after uses, one after the other. -/
def used (capacity : Nat) (uses : List (Use κ ν)) : Cache κ ν := uses.foldl Use.apply { capacity }

/-- The entries of a cache of the given capacity after uses, ordered by use. -/
def usedIdeal (capacity : Nat) (uses : List (Use κ ν)) : Recency κ ν :=
  uses.foldl (Use.ideal capacity) []

variable {uses : List (Use κ ν)}

theorem matches_used : Matches capacity (used capacity uses) (usedIdeal capacity uses) :=
  List.foldl_rel ⟨rfl, holds_nil⟩ fun use _ _ _ h => Matches.apply h use

/-- The keys of the entries are those that the uses leave. -/
theorem mapValues_usedIdeal :
    (usedIdeal capacity uses).mapValues (fun _ => ()) = uses.foldl (Use.mark capacity) [] := by
  refine List.foldl_rel (r := fun entries keys => Recency.mapValues _ entries = keys) rfl ?_
  rintro use - entries _ rfl
  exact Use.mapValues_ideal

theorem nested_keys (uses : List (Use κ ν)) (hle : capacity ≤ capacity') :
    Recency.Nested capacity capacity' ((usedIdeal capacity uses).mapValues fun _ => ())
      ((usedIdeal capacity' uses).mapValues fun _ => ()) := by
  rw [mapValues_usedIdeal, mapValues_usedIdeal]
  exact List.foldl_rel Recency.nested_nil fun use _ _ _ h => Use.nested_mark h hle

theorem nested_entries (hle : capacity ≤ capacity') (hplain : ∀ use ∈ uses, use.IsPlain) :
    Recency.Nested capacity capacity' (usedIdeal capacity uses) (usedIdeal capacity' uses) :=
  List.foldl_rel Recency.nested_nil fun use huse _ _ h => Use.nested_ideal h hle (hplain use huse)

/-- A look-up answers what the list of entries has for the key. -/
theorem get_used (key : κ) :
    ((used capacity uses).get key).1 = (usedIdeal capacity uses).lookup key := by
  rw [(matches_used.get key).1, Recency.get]
  rcases (usedIdeal capacity uses).lookup key <;> rfl

/-- Two caches that are put to the same uses from the start, the second one of no smaller capacity
than the first: the second holds every key that the first holds, the keys of the first are in the
same order by use in both, and the second holds no more keys beyond those than the capacities differ
by. If no use changes a value in place or makes one, the second has the value of the first for every
key that the first holds. The uses may stop anywhere, so all this is so after each of them. -/
theorem larger_holds_smaller (hle : capacity ≤ capacity') (uses : List (Use κ ν)) :
    let small := used capacity uses
    let large := used capacity' uses
    (∀ key, (small.get key).1.isSome → (large.get key).1.isSome) ∧
      (small.recency.map Prod.fst).Sublist (large.recency.map Prod.fst) ∧
      large.size ≤ small.size + (capacity' - capacity) ∧
      ((∀ use ∈ uses, use.IsPlain) →
        small.recency.Sublist large.recency ∧
        ∀ key value, (small.get key).1 = some value → (large.get key).1 = some value) := by
  have hkeys : Recency.Nested capacity capacity' _ _ := nested_keys uses hle
  intro small large
  refine ⟨fun key hsome => ?_, ?_, ?_, fun hplain => ⟨?_, fun key value hget => ?_⟩⟩
  · rw [get_used, ← Option.isSome_map, ← Recency.lookup_mapValues] at hsome ⊢
    exact hkeys.sublist.lookup_isSome hsome
  · rw [matches_used.2.recency_eq, matches_used.2.recency_eq]
    simpa only [Recency.keys_mapValues] using hkeys.sublist.map Prod.fst
  · rw [matches_used.2.size_eq, matches_used.2.size_eq]
    simpa only [Recency.length_mapValues] using hkeys.length_le
  · rw [matches_used.2.recency_eq, matches_used.2.recency_eq]
    exact (nested_entries hle hplain).sublist
  · rw [get_used] at hget ⊢
    exact (nested_entries hle hplain).lookup_eq_some hget

/-- The entry that was used first is moved to the front of the larger cache, which is the only one
that still has it. The other entry stays in both. -/
theorem one_within_two :
    let uses : List (Use String Nat) := [.insert "a" 1, .insert "b" 2, .get "a"]
    1 ≤ 2 ∧ (∀ use ∈ uses, use.IsPlain) ∧ (used 2 uses).recency = [("a", 1), ("b", 2)] ∧
      ((used 1 uses).get "b").1 = some 2 ∧ ((used 2 uses).get "b").1 = some 2 := by
  intro uses
  have hplain : ∀ use ∈ uses, use.IsPlain := by simp [uses, Use.IsPlain]
  have hsmall : ((used 1 uses).get "b").1 = some 2 := by decide
  refine ⟨by decide, hplain, ?_, hsmall, ?_⟩
  · exact matches_used.2.recency_eq
  · exact ((larger_holds_smaller (by decide) uses).2.2.2 hplain).2 "b" 2 hsmall

end Cache

end Telemetry
