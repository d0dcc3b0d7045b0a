import Telemetry.Proofs.Cache.Recency
import Telemetry.Statement.Parameters

/-!
# The binds behind a table of parameters

A `ParameterTable.Ledger` keeps, for each statement with an entry, every bind that was recorded
since the entry was created. The table keeps less, namely the last value at each position.

* `ParameterTable.Use.book`: what a use of the table does to the ledger. The first bind of a
  statement creates its entry, later ones are added to it, and forgetting the statement removes the
  entry as a whole. A new entry takes the place of the one used least recently if the table is full.
* `ParameterTable.Holds`: a table holds what the binds of a ledger leave. This is the invariant.
* `ParameterTable.Tracks`: a table shows just what a ledger says.

Main statements: a use does to a table what it does to its ledger (`ParameterTable.Holds.apply`),
and what the table shows is what the ledger says (`ParameterTable.Holds.tracks`).
-/

namespace Telemetry

/-! ## Parameters by their binds -/

/-- The parameters that binds leave, of which the first was recorded last. -/
def Parameters.ofBinds (binds : List (Nat × ParameterValue)) : Parameters :=
  binds.foldr (fun bind parameters => parameters.insert bind.1 bind.2) ∅

/-- At each position is the value that was recorded last. -/
theorem Parameters.getElem?_ofBinds {binds : List (Nat × ParameterValue)} {index : Nat} :
    (ofBinds binds)[index]? = binds.lookup index := by
  induction binds with
  | nil => exact Std.TreeMap.getElem?_emptyc
  | cons bind binds ih =>
    obtain ⟨position, value⟩ := bind
    rw [ofBinds, List.foldr_cons, ← ofBinds, Std.TreeMap.getElem?_insert, ih, List.lookup_cons]
    by_cases hposition : position = index
    · simp [hposition]
    · have hmiss : (index == position) = false := beq_false_of_ne (Ne.symm hposition)
      simp [hposition, hmiss]

namespace ParameterTable

open Attempt (modify_apply)

/-! ## Ledgers -/

/-- A use of a table of parameters. -/
inductive Use where
  | record (statement : StatementId) (index : Nat) (value : ParameterValue)
  | look (statement : StatementId)
  | forget (statement : StatementId)

/-- The table after a use. -/
def Use.apply : Use → ParameterTable → ParameterTable
  | record statement index value, table => (put statement index value table).2
  | look statement, table => (table.get statement).2
  | forget statement, table => (table.remove statement).2

/-- For each statement with an entry, the binds since the entry was created, the last one first.
The statement that was used last comes first. -/
abbrev Ledger := Recency StatementId (List (Nat × ParameterValue))

/-- The ledger after a use of a table for at most `capacity` statements. -/
def Use.book (capacity : Nat) : Use → Ledger → Ledger
  | record statement index value, ledger =>
    Recency.write capacity statement ((index, value) :: (ledger.lookup statement).getD []) ledger
  | look statement, ledger => (Recency.get capacity statement ledger).2
  | forget statement, ledger => Recency.without statement ledger

/-- The ledger of the uses of a table that was empty before them. -/
def ledger (capacity : Nat) (uses : List Use) : Ledger :=
  uses.foldl (fun ledger use => use.book capacity ledger) []

/-- A table for at most `capacity` statements shows what a ledger says. -/
structure Tracks (capacity : Nat) (table : ParameterTable) (ledger : Ledger) : Prop where
  /-- The same statements have entries, and they were used in the same order. -/
  statements : table.recency.map Prod.fst = ledger.map Prod.fst
  /-- At each position of a statement is the value that was recorded there last. -/
  parameters : ∀ statement index,
    (table.find? statement).map (fun slot => slot.value[index]?) =
      (ledger.lookup statement).map (fun binds => binds.lookup index)
  /-- There is one entry for each statement that has one. -/
  size : table.size = ledger.length
  /-- There are no more entries than there may be. -/
  length_le : ledger.length ≤ capacity

/-- A table for at most `capacity` statements holds what the binds of a ledger leave. -/
def Holds (capacity : Nat) (table : ParameterTable) (ledger : Ledger) : Prop :=
  Cache.Matches capacity table (ledger.mapValues Parameters.ofBinds)

/-! ## Table and ledger, side by side -/

variable {capacity : Nat} {table : ParameterTable} {ledger : Ledger}

/-- A table without entries holds the empty ledger. -/
theorem holds_ofCapacity : (ofCapacity capacity).Holds capacity [] :=
  ⟨rfl, Cache.holds_nil⟩

/-- A use does to the table what it does to the ledger. -/
theorem Holds.apply (h : table.Holds capacity ledger) (use : Use) :
    (use.apply table).Holds capacity (use.book capacity ledger) := by
  rw [Holds] at h ⊢
  cases use with
  | record statement index value =>
    -- A statement without an entry starts from no parameters, which is what no binds leave.
    have hbound : ((ledger.lookup statement).map Parameters.ofBinds).getD ∅ =
        Parameters.ofBinds ((ledger.lookup statement).getD []) := by
      cases ledger.lookup statement <;> rfl
    have hupdate := (Cache.simulates_update statement ∅ (modify (·.insert index value)) h).2
    rw [Use.book, Recency.write_mapValues]
    simp only [Recency.update, modify_apply, Recency.lookup_mapValues, hbound] at hupdate
    exact hupdate
  | look statement =>
    rw [Use.book, Recency.get_mapValues]
    exact (h.get statement).2
  | forget statement =>
    rw [Use.book, Recency.without_mapValues]
    exact (h.remove statement).2

/-- What a table holds of a ledger is what it shows. -/
theorem Holds.tracks (h : table.Holds capacity ledger) : table.Tracks capacity ledger where
  statements := by
    rw [h.2.recency_eq, Recency.mapValues, List.map_map]
    rfl
  parameters statement index := by
    have hlookup := h.2.find?_map statement
    rw [Recency.lookup_mapValues] at hlookup
    calc (table.find? statement).map (fun slot => slot.value[index]?)
        = ((table.find? statement).map (·.value)).map (·[index]?) := by rw [Option.map_map]; rfl
      _ = ((ledger.lookup statement).map Parameters.ofBinds).map (·[index]?) := by rw [hlookup]
      _ = (ledger.lookup statement).map (fun binds => binds.lookup index) := by
        rw [Option.map_map]
        exact Option.map_congr fun binds _ => Parameters.getElem?_ofBinds
  size := h.2.size_eq.trans (List.length_map _)
  length_le := by
    have hlength := Cache.Matches.length_le h
    rwa [Recency.mapValues, List.length_map] at hlength

end ParameterTable

end Telemetry
