import Mathlib.Data.List.Nodup
import Telemetry.Cache.Basic
import Telemetry.Proofs.Attempt
import Telemetry.Proofs.Keyed

/-!
# A cache as a list ordered by use

The slots of a `Cache` are in no particular order; which was used when is in the stamps. This
module gives the second view of a cache, the list of its entries with the one used last first, and
says what each operation does to that list.

* `Cache.recency`: the view, which sorts the slots by their stamps.
* `Cache.Ordered`: the invariant. The stamps are pairwise distinct, below the clock, and ordered
  like the list; the keys are distinct; and there are no more slots than the cache may have.
* `Cache.Holds.write`, `Cache.Holds.remove` and `Cache.Holds.rearrange`: what the operations do to
  the list. The order in which the slots are kept plays no part in it.
-/

namespace Telemetry

/-! ## Lists ordered by use -/

/-- The entries of a cache, the one used last first. -/
abbrev Recency (κ ν : Type) := List (κ × ν)

namespace Recency

variable {κ ν α : Type} [DecidableEq κ]

/-- The entries without that of a key. -/
def without (key : κ) (entries : Recency κ ν) : Recency κ ν := entries.filter (·.1 ≠ key)

/-- The entries after one was written. An entry of the key moves to the front; a new entry goes to
the front too, and costs the last entry its place if there are `capacity` entries already. Without
capacity nothing is written. -/
def write (capacity : Nat) (key : κ) (value : ν) (entries : Recency κ ν) : Recency κ ν :=
  if capacity = 0 then entries
  else if (entries.lookup key).isSome then (key, value) :: without key entries
  else if entries.length < capacity then (key, value) :: entries
  else (key, value) :: entries.dropLast

/-- Stores a value and answers the one it replaced. -/
def insert (capacity : Nat) (key : κ) (value : ν) (entries : Recency κ ν) :
    Option ν × Recency κ ν :=
  (entries.lookup key, write capacity key value entries)

/-- Removes the entry of a key and answers its value. -/
def remove (key : κ) (entries : Recency κ ν) : Option ν × Recency κ ν :=
  (entries.lookup key, without key entries)

/-- Looks up a key. A hit moves the entry to the front; a miss changes nothing. -/
def get (capacity : Nat) (key : κ) (entries : Recency κ ν) : Option ν × Recency κ ν :=
  match entries.lookup key with
  | some value => (some value, write capacity key value entries)
  | none => (none, entries)

/-- Changes the value of a key, or `fresh` if there is none, and brings what it has become to the
front, also if the change panics. -/
def update (capacity : Nat) (key : κ) (fresh : ν) (change : Attempt ν α) :
    Attempt (Recency κ ν) α := fun entries =>
  let (ended, value) := change ((entries.lookup key).getD fresh)
  (ended, write capacity key value entries)

/-- The value of a key. If there is none it is made, and written over whatever `make` wrote. -/
def getOrInsert (capacity : Nat) (key : κ) (make : Attempt (Recency κ ν) ν) :
    Attempt (Recency κ ν) ν := do
  match ← modifyGet (get capacity key) with
  | some value => pure value
  | none =>
    let value ← make
    modify (write capacity key value)
    pure value

/-- Without the key nothing is left out. -/
theorem without_eq_self {key : κ} {entries : Recency κ ν} (h : entries.lookup key = none) :
    without key entries = entries := by
  rw [without, List.filter_eq_self]
  intro entry hentry
  refine decide_eq_true ?_
  rintro rfl
  exact Keyed.lookup_eq_none_iff.mp h (List.mem_map_of_mem hentry)

section MapValues

variable {μ : Type} {f : ν → μ} {capacity : Nat} {key : κ} {value : ν} {entries : Recency κ ν}

/-- The entries with every value replaced. -/
def mapValues (f : ν → μ) (entries : Recency κ ν) : Recency κ μ :=
  entries.map fun entry => (entry.1, f entry.2)

theorem lookup_mapValues : (entries.mapValues f).lookup key = (entries.lookup key).map f := by
  induction entries with
  | nil => rfl
  | cons entry entries ih =>
    rw [mapValues, List.map_cons, List.lookup_cons, List.lookup_cons, ← mapValues, ih]
    cases key == entry.1 <;> rfl

theorem without_mapValues :
    (entries.without key).mapValues f = (entries.mapValues f).without key := by
  rw [without, without, mapValues, mapValues, List.filter_map]
  rfl

/-- Replacing the values does not change what an entry costs. -/
theorem write_mapValues :
    (entries.write capacity key value).mapValues f =
      (entries.mapValues f).write capacity key (f value) := by
  have hlength : (entries.mapValues f).length = entries.length := List.length_map _
  have hdropLast : mapValues f entries.dropLast = (entries.mapValues f).dropLast :=
    List.map_dropLast
  rw [write, write, lookup_mapValues, Option.isSome_map, hlength, ← without_mapValues, ← hdropLast]
  split_ifs <;> rfl

theorem get_mapValues :
    (entries.get capacity key).2.mapValues f = ((entries.mapValues f).get capacity key).2 := by
  rw [get, get, lookup_mapValues]
  cases entries.lookup key with
  | none => rfl
  | some value => exact write_mapValues

end MapValues

end Recency

namespace Cache

variable {κ ν : Type}

/-! ## The view -/

/-- The key and the value of a slot. -/
def Slot.entry (slot : Slot κ ν) : κ × ν := (slot.key, slot.value)

/-- The slots, the one used last first. -/
def byUse (c : Cache κ ν) : List (Slot κ ν) :=
  c.slots.mergeSort fun s t => t.lastUsed ≤ s.lastUsed

/-- The entries, the one used last first. -/
def recency (c : Cache κ ν) : Recency κ ν := c.byUse.map Slot.entry

/-- `slots` are the slots of a cache from the last used to the first, and the cache is as its
operations leave it. -/
structure Ordered (c : Cache κ ν) (slots : List (Slot κ ν)) : Prop where
  /-- All slots are listed. -/
  perm : slots.Perm c.slots
  /-- A slot that is listed before another one was used after it. -/
  stamps : slots.Pairwise fun s t => t.lastUsed < s.lastUsed
  /-- A key has one slot. -/
  nodup_keys : (slots.map (·.key)).Nodup
  /-- No slot was used after the present. -/
  lastUsed_lt : ∀ s ∈ slots, s.lastUsed < c.clock
  /-- There are no more slots than there may be. -/
  length_le : slots.length ≤ c.capacity

/-- A cache holds just `entries`, of which the first was used last. -/
def Holds (c : Cache κ ν) (entries : Recency κ ν) : Prop :=
  ∃ slots, c.Ordered slots ∧ slots.map Slot.entry = entries

variable {c : Cache κ ν} {slots : List (Slot κ ν)} {entries : Recency κ ν} {key : κ} {value : ν}

/-- Slots with different stamps have one order by use. -/
theorem Ordered.byUse_eq (h : c.Ordered slots) : c.byUse = slots := by
  have hstamps : (slots.map (·.lastUsed)).Nodup := by
    rw [List.Nodup, List.pairwise_map]
    exact h.stamps.imp fun hlt => Nat.ne_of_gt hlt
  have hsorted : c.byUse.Pairwise fun s t => t.lastUsed ≤ s.lastUsed := by
    have := @List.pairwise_mergeSort (Slot κ ν) (fun s t => t.lastUsed ≤ s.lastUsed)
      (fun s t u => by simpa using fun hst htu => Nat.le_trans htu hst)
      (fun s t => by simpa using Nat.le_total t.lastUsed s.lastUsed) c.slots
    simpa [byUse] using this
  have hperm : c.byUse.Perm slots := (List.mergeSort_perm _ _).trans h.perm.symm
  -- Two slots that are each as old as the other have one stamp, so they are one slot.
  refine List.Perm.eq_of_pairwise ?_ hsorted (h.stamps.imp fun hlt => Nat.le_of_lt hlt) hperm
  intro s t hs ht hts hst
  exact List.inj_on_of_nodup_map hstamps (hperm.subset hs) ht (Nat.le_antisymm hst hts)

/-- What a cache holds is its view. -/
theorem Holds.recency_eq (h : c.Holds entries) : c.recency = entries := by
  obtain ⟨slots, hslots, rfl⟩ := h
  rw [recency, hslots.byUse_eq]

theorem Holds.length_le (h : c.Holds entries) : entries.length ≤ c.capacity := by
  obtain ⟨slots, hslots, rfl⟩ := h
  simpa using hslots.length_le

theorem Holds.size_eq (h : c.Holds entries) : c.size = entries.length := by
  obtain ⟨slots, hslots, rfl⟩ := h
  rw [size, List.length_map, hslots.perm.length_eq]

theorem Holds.nodup_keys (h : c.Holds entries) : (entries.map Prod.fst).Nodup := by
  obtain ⟨slots, hslots, rfl⟩ := h
  simpa [Slot.entry, Function.comp_def] using hslots.nodup_keys

/-- A cache of the given capacity that holds just `entries`, of which the first was used last. -/
def Matches (capacity : Nat) (c : Cache κ ν) (entries : Recency κ ν) : Prop :=
  c.capacity = capacity ∧ c.Holds entries

theorem Matches.length_le {capacity : Nat} (h : Matches capacity c entries) :
    entries.length ≤ capacity :=
  h.1 ▸ h.2.length_le

/-- Without capacity there is no entry. -/
theorem Matches.eq_nil (h : Matches 0 c entries) : entries = [] :=
  List.length_eq_zero_iff.mp (Nat.le_zero.mp h.length_le)

/-- A cache without slots holds nothing. -/
theorem holds_nil {capacity clock : Nat} :
    ({ capacity, clock } : Cache κ ν).Holds [] :=
  ⟨[], ⟨List.Perm.nil, List.Pairwise.nil, List.nodup_nil, by simp, Nat.zero_le _⟩, rfl⟩

/-- The order in which the slots are kept does not show. -/
theorem Holds.rearrange (h : c.Holds entries) (hperm : slots.Perm c.slots) :
    Holds { c with slots } entries := by
  obtain ⟨ordered, hordered, rfl⟩ := h
  exact ⟨ordered, { hordered with perm := hordered.perm.trans hperm.symm }, rfl⟩

/-! ## What the operations do to the list -/

/-- Some slot is the oldest, unless there is none. -/
theorem oldest?_eq_none (h : oldest? slots = none) : slots = [] := by
  cases slots with
  | nil => rfl
  | cons first rest => simp only [oldest?] at h; split at h <;> cases h

/-- The oldest slot is a slot, and none was used before it. -/
theorem oldest?_eq_some {slot : Slot κ ν} (h : oldest? slots = some slot) :
    slot ∈ slots ∧ ∀ other ∈ slots, slot.lastUsed ≤ other.lastUsed := by
  induction slots generalizing slot with
  | nil => cases h
  | cons first rest ih =>
    cases hrest : oldest? rest with
    | none =>
      have hslot : first = slot := by simpa [oldest?, hrest] using h
      simp [oldest?_eq_none hrest, hslot]
    | some oldest =>
      obtain ⟨hmem, hle⟩ := ih hrest
      simp only [oldest?, hrest, Option.some.injEq] at h
      subst h
      split
      next hlt =>
        refine ⟨List.mem_cons_of_mem _ hmem, ?_⟩
        rintro other (_ | ⟨_, hother⟩)
        · omega
        · exact hle other hother
      next hge =>
        refine ⟨List.mem_cons_self, ?_⟩
        rintro other (_ | ⟨_, hother⟩)
        · exact Nat.le_refl _
        · have := hle other hother
          omega

/-- The oldest slot is the last one by use. -/
theorem Ordered.oldest?_eq (h : c.Ordered slots) : oldest? c.slots = slots.getLast? := by
  rcases List.eq_nil_or_concat' slots with rfl | ⟨newer, last, rfl⟩
  · rw [List.nil_perm.mp h.perm]
    rfl
  · have hlast : last ∈ c.slots := h.perm.subset (by simp)
    cases holdest : oldest? c.slots with
    | none =>
      rw [oldest?_eq_none holdest] at hlast
      cases hlast
    | some oldest =>
      obtain ⟨hmem, hle⟩ := oldest?_eq_some holdest
      have hoccurs : oldest ∈ newer ∨ oldest = last := by
        simpa using h.perm.mem_iff.mpr hmem
      rcases hoccurs with hnewer | rfl
      · -- A newer slot has a later stamp than the last one, so it is not the oldest.
        have hlt := (List.pairwise_append.mp h.stamps).2.2 oldest hnewer last (by simp)
        have := hle last hlast
        omega
      · simp

/-- A slot that is stamped now goes to the front of those that are kept. -/
theorem Ordered.cons (h : c.Ordered slots) {kept stored : List (Slot κ ν)}
    (hkept : kept.Sublist slots) (hkey : ∀ slot ∈ kept, slot.key ≠ key)
    (hroom : kept.length < c.capacity) (hperm : stored.Perm (⟨key, value, c.clock⟩ :: kept)) :
    Ordered { c with clock := c.clock + 1, slots := stored } (⟨key, value, c.clock⟩ :: kept) where
  perm := hperm.symm
  stamps := by
    -- The clock is ahead of every stamp that is kept.
    refine List.pairwise_cons.mpr ⟨?_, h.stamps.sublist hkept⟩
    exact fun s hs => h.lastUsed_lt s (hkept.subset hs)
  nodup_keys := by
    rw [List.map_cons, List.nodup_cons]
    refine ⟨?_, h.nodup_keys.sublist (hkept.map _)⟩
    intro hmem
    obtain ⟨slot, hslot, heq⟩ := List.mem_map.mp hmem
    exact hkey slot hslot heq
  lastUsed_lt := by
    rintro slot (_ | ⟨_, hslot⟩)
    · exact Nat.lt_succ_self _
    · exact Nat.lt_succ_of_lt (h.lastUsed_lt slot (hkept.subset hslot))
  length_le := hroom

variable [DecidableEq κ]

/-- With distinct keys, looking a key up finds just its slot. -/
theorem find?_eq_some_iff (h : (slots.map (·.key)).Nodup) {slot : Slot κ ν} :
    slots.find? (·.key = key) = some slot ↔ slot ∈ slots ∧ slot.key = key := by
  constructor
  · intro hfind
    exact ⟨List.mem_of_find?_eq_some hfind, by simpa using List.find?_some hfind⟩
  · rintro ⟨hmem, rfl⟩
    cases hfind : slots.find? (·.key = slot.key) with
    | none => simpa using List.find?_eq_none.mp hfind slot hmem
    | some found =>
      have hkey : found.key = slot.key := by simpa using List.find?_some hfind
      rw [List.inj_on_of_nodup_map h (List.mem_of_find?_eq_some hfind) hmem hkey]

/-- A look-up finds the slot wherever it is kept. -/
theorem Ordered.find?_eq (h : c.Ordered slots) : c.find? key = slots.find? (·.key = key) := by
  have hkeys : (c.slots.map (·.key)).Nodup := (h.perm.map _).nodup_iff.mp h.nodup_keys
  ext slot
  rw [find?, find?_eq_some_iff hkeys, find?_eq_some_iff h.nodup_keys, h.perm.mem_iff]

/-- A look-up in the list of entries is one in the list of slots. -/
theorem lookup_map_entry :
    (slots.map Slot.entry).lookup key = (slots.find? (·.key = key)).map (·.value) := by
  induction slots with
  | nil => rfl
  | cons slot rest ih =>
    by_cases hkey : slot.key = key
    · simp [Slot.entry, hkey]
    · have hne : (key == slot.key) = false := beq_false_of_ne (Ne.symm hkey)
      rw [List.map_cons, List.lookup_cons, List.find?_cons_of_neg (by simpa using hkey)]
      simpa only [Slot.entry, hne] using ih

/-- A look-up finds the value that is listed. -/
theorem Holds.find?_map (h : c.Holds entries) (key : κ) :
    (c.find? key).map (·.value) = entries.lookup key := by
  obtain ⟨slots, hslots, rfl⟩ := h
  rw [hslots.find?_eq, lookup_map_entry]

theorem without_map_entry :
    Recency.without key (slots.map Slot.entry) = (without key slots).map Slot.entry := by
  rw [Recency.without, without, List.filter_map]
  rfl

/-- Slots of other keys stay when a key is overwritten or left out. -/
theorem without_eq_self (h : ∀ slot ∈ slots, slot.key ≠ key) : without key slots = slots := by
  rw [without, List.filter_eq_self]
  exact fun slot hslot => decide_eq_true (h slot hslot)

/-- Overwriting the slot of a key where it is gives the slots that moving it to the front gives. -/
theorem map_overwrite_perm (h : (slots.map (·.key)).Nodup) {old slot : Slot κ ν}
    (hold : old ∈ slots) (hkey : old.key = key) :
    (slots.map fun s => if s.key = key then slot else s).Perm (slot :: without key slots) := by
  induction slots with
  | nil => cases hold
  | cons first rest ih =>
    obtain ⟨hfirst, hrest⟩ := List.nodup_cons.mp h
    by_cases hhit : first.key = key
    · -- The first slot is the one of the key, so no other slot changes.
      have hothers : ∀ s ∈ rest, s.key ≠ key := by
        intro s hs hs'
        exact hfirst (List.mem_map.mpr ⟨s, hs, hs'.trans hhit.symm⟩)
      have hmap : rest.map (fun s => if s.key = key then slot else s) = rest :=
        (List.map_congr_left fun s hs => if_neg (hothers s hs)).trans (List.map_id' rest)
      rw [List.map_cons, if_pos hhit, hmap, without, List.filter_cons_of_neg (by simpa using hhit),
        ← without, without_eq_self hothers]
    · -- The first slot stays, and the overwritten one passes it on its way to the front.
      have hmem : old ∈ rest := by
        rcases List.mem_cons.mp hold with rfl | hmem
        · exact absurd hkey hhit
        · exact hmem
      rw [List.map_cons, if_neg hhit, without, List.filter_cons_of_pos (by simpa using hhit)]
      exact ((ih hrest hmem).cons first).trans (List.Perm.swap slot first _)

/-- The slots that stay when room was made for one more are all of them, or all but the last. -/
theorem Ordered.makeRoom_perm (h : c.Ordered slots) (hcapacity : c.capacity ≠ 0) :
    (makeRoom c.capacity c.slots).Perm
      (if slots.length < c.capacity then slots else slots.dropLast) := by
  rw [makeRoom, ← h.perm.length_eq]
  split
  next => exact h.perm.symm
  next hfull =>
    rcases List.eq_nil_or_concat' slots with rfl | ⟨newer, last, rfl⟩
    · exact absurd (Nat.pos_of_ne_zero hcapacity) hfull
    · -- Leaving out the key of the oldest slot leaves out no other slot.
      have hkeys : ∀ slot ∈ newer, slot.key ≠ last.key := by
        have := h.nodup_keys
        rw [List.map_append, List.nodup_append] at this
        intro slot hslot
        exact this.2.2 _ (List.mem_map_of_mem hslot) _ (by simp)
      rw [h.oldest?_eq, List.getLast?_concat, List.dropLast_concat]
      have hfilter : without last.key (newer ++ [last]) = newer := by
        rw [without, List.filter_append, ← without, without_eq_self hkeys]
        simp
      exact hfilter ▸ (h.perm.symm.filter _)

/-- Writing an entry brings it to the front, and costs the last entry its place if need be. -/
theorem Holds.write (h : c.Holds entries) (hcapacity : c.capacity ≠ 0) :
    (c.write key value).Holds (Recency.write c.capacity key value entries) := by
  have hlookup := h.find?_map key
  obtain ⟨slots, hslots, rfl⟩ := h
  rw [Recency.write, if_neg hcapacity, ← hlookup]
  cases hfind : c.find? key with
  | some old =>
    -- The key has a slot. Overwriting it where it is amounts to moving it to the front.
    have hold : old ∈ slots ∧ old.key = key := by
      rwa [hslots.find?_eq, find?_eq_some_iff hslots.nodup_keys] at hfind
    refine ⟨⟨key, value, c.clock⟩ :: without key slots, ?_, ?_⟩
    · simp only [Cache.write, hfind]
      refine hslots.cons List.filter_sublist (by simp [without]) ?_ ?_
      · -- The old slot of the key leaves room for the new one.
        refine Nat.lt_of_lt_of_le (List.length_filter_lt_length_iff_exists.mpr ?_) hslots.length_le
        exact ⟨old, hold.1, by simpa using hold.2⟩
      · exact ((hslots.perm.map _).symm).trans
          (map_overwrite_perm hslots.nodup_keys hold.1 hold.2)
    · simp [without_map_entry, Slot.entry]
  | none =>
    -- The key is new, and it may cost the last slot its place.
    have hnone : ∀ slot ∈ slots, slot.key ≠ key := by
      rw [hslots.find?_eq] at hfind
      simpa using hfind
    have hroom := hslots.makeRoom_perm hcapacity
    refine ⟨⟨key, value, c.clock⟩ :: (if slots.length < c.capacity then slots else slots.dropLast),
      ?_, ?_⟩
    · simp only [Cache.write, hfind]
      refine hslots.cons ?_ ?_ ?_ (hroom.cons _)
      · split
        · exact List.Sublist.refl _
        · exact List.dropLast_sublist _
      · intro slot hslot
        split at hslot
        · exact hnone slot hslot
        · exact hnone slot (List.dropLast_subset _ hslot)
      · -- Either there was room, or the last slot made room.
        have := hslots.length_le
        split
        · assumption
        · rw [List.length_dropLast]
          omega
    · simp only [Option.map_none, Option.isSome_none, Bool.false_eq_true, if_false,
        List.length_map]
      split <;> simp [Slot.entry, List.map_dropLast]

/-- Removing a key leaves the order of the other entries as it is. -/
theorem Holds.remove (h : c.Holds entries) :
    (c.remove key).2.Holds (Recency.without key entries) := by
  obtain ⟨slots, hslots, rfl⟩ := h
  refine ⟨without key slots, ?_, without_map_entry.symm⟩
  exact {
    perm := hslots.perm.filter _
    stamps := hslots.stamps.sublist List.filter_sublist
    nodup_keys := hslots.nodup_keys.sublist (List.filter_sublist.map _)
    lastUsed_lt := fun slot hslot => hslots.lastUsed_lt slot (List.mem_of_mem_filter hslot)
    length_le := Nat.le_trans (List.length_filter_le _ _) hslots.length_le }

/-! ## Cache and list, side by side -/

section Matches

variable {capacity : Nat}

theorem Matches.write (h : Matches capacity c entries) (hcapacity : capacity ≠ 0) (key : κ)
    (value : ν) :
    Matches capacity (c.write key value) (Recency.write capacity key value entries) := by
  obtain ⟨rfl, hholds⟩ := h
  exact ⟨rfl, hholds.write hcapacity⟩

/-- Without capacity nothing is found. -/
theorem Matches.find?_eq_none (h : Matches 0 c entries) (key : κ) : c.find? key = none := by
  have hlookup := h.2.find?_map key
  rw [h.eq_nil] at hlookup
  exact Option.map_eq_none_iff.mp hlookup

theorem Matches.get (h : Matches capacity c entries) (key : κ) :
    (c.get key).1 = (Recency.get capacity key entries).1 ∧
      Matches capacity (c.get key).2 (Recency.get capacity key entries).2 := by
  rw [Cache.get, Recency.get, ← h.2.find?_map key]
  cases hfind : c.find? key with
  | none => exact ⟨rfl, h⟩
  | some slot =>
    -- Without capacity there would be no hit.
    have hcapacity : capacity ≠ 0 := by
      rintro rfl
      rw [h.find?_eq_none] at hfind
      cases hfind
    exact ⟨rfl, h.write hcapacity key slot.value⟩

theorem Matches.insert (h : Matches capacity c entries) (key : κ) (value : ν) :
    (c.insert key value).1 = (Recency.insert capacity key value entries).1 ∧
      Matches capacity (c.insert key value).2 (Recency.insert capacity key value entries).2 := by
  rw [Cache.insert, Recency.insert, ← h.2.find?_map key, h.1]
  by_cases hcapacity : capacity = 0
  · subst hcapacity
    rw [if_pos rfl, h.find?_eq_none, Recency.write, if_pos rfl]
    exact ⟨rfl, h⟩
  · rw [if_neg hcapacity]
    exact ⟨rfl, h.write hcapacity key value⟩

theorem Matches.remove (h : Matches capacity c entries) (key : κ) :
    (c.remove key).1 = (Recency.remove key entries).1 ∧
      Matches capacity (c.remove key).2 (Recency.remove key entries).2 :=
  ⟨h.2.find?_map key, h.1, h.2.remove⟩

/-- A change works on the value that is listed, and the entry stays with what it became. -/
theorem simulates_update {α : Type} (key : κ) (fresh : ν) (change : Attempt ν α) :
    Attempt.Simulates (Matches capacity) (update key fresh change)
      (Recency.update capacity key fresh change) := by
  intro c entries h
  simp only [update, Recency.update, ← h.2.find?_map key, h.1, true_and]
  split
  next hzero => rwa [Recency.write, if_pos hzero]
  next hcapacity => exact h.write hcapacity key _

end Matches

end Cache

end Telemetry
