import Telemetry.Proofs.Program.Visits
import Telemetry.Proofs.Statement.Frame
import Telemetry.Proofs.Statement.Ledger

/-!
# Setters bind once

Programs that bind parameters, run statements and use the tables of parameters, with setters that
call others, nested in any way, on any thread, and with panics that end any of them.

* `Statement.TableHook`, `Statement.Binding`: the calls.
* `Visit.use?`: what one call must do to a table. A bind is recorded if no setter encloses it on its
  thread, whatever that setter binds, and if its position is not zero.

Main statement: over a whole run, a table that starts empty shows what the ledger of these uses says
(`Statement.table_tracks_uses`).
-/

namespace Telemetry

namespace Statement

open Attempt Host

variable {α β : Type} {id : TableId} {statement : StatementId} {host : Host α}

/-! ## Tracking as an instrumentation -/

/-- Looks at the parameters of a statement, which counts as a use. -/
def look (id : TableId) (statement : StatementId) : Attempt (Host α) (Option Parameters) :=
  Attempt.focus (tablePlace id) (modifyGet (Cache.get · statement))

/-- Takes the parameters of a statement out of the table. -/
def take (id : TableId) (statement : StatementId) : Attempt (Host α) (Option Parameters) :=
  Attempt.focus (tablePlace id) (modifyGet (Cache.remove · statement))

/-- Forgets the parameters of a statement. -/
def clear (id : TableId) (statement : StatementId) : Attempt (Host α) Unit :=
  Attempt.focus (tablePlace id) (modify fun table => (Cache.remove table statement).2)

/-- A parameter that is bound, and the table that remembers it. -/
structure Binding where
  /-- The table of the instrumentation. -/
  id : TableId
  /-- The statement. -/
  statement : StatementId
  /-- The position. -/
  index : Nat
  /-- The value. -/
  value : ParameterValue

/-- What is called without a body: a bind, a statement that runs, and the uses of the table. -/
inductive TableHook : Type → Type where
  | bind (binding : Binding) : TableHook Unit
  | execute (id : TableId) (statement : StatementId) : TableHook (Option String)
  | look (id : TableId) (statement : StatementId) : TableHook (Option Parameters)
  | take (id : TableId) (statement : StatementId) : TableHook (Option Parameters)
  | clear (id : TableId) (statement : StatementId) : TableHook Unit

/-- Calls a hook. -/
def TableHook.call : TableHook β → Attempt (Host α) β
  | bind binding => Statement.bind binding.id binding.statement binding.index binding.value
  | execute id statement => Statement.execute id statement
  | look id statement => Statement.look id statement
  | take id statement => Statement.take id statement
  | clear id statement => Statement.clear id statement

/-- The host at which the body of a setter begins. -/
def Binding.bound (binding : Binding) (host : Host α) : Host α :=
  Statement.bound binding.id binding.statement binding.index binding.value host

theorem TableHook.call_keeps {R : Host α → Host α → Prop} (hR : Frame R) (hook : TableHook β) :
    Keeps R hook.call := by
  cases hook with
  | bind binding => exact bindWith_keeps hR (hR.pure ())
  | execute id statement => exact execute_keeps hR
  | look id statement => exact fun host => hR.table id _ host
  | take id statement => exact fun host => hR.table id _ host
  | clear id statement => exact fun host => hR.table id _ host

instance : Nesting TableHook Binding where
  call := TableHook.call
  within binding := bindWith binding.id binding.statement binding.index binding.value
  kind := parameterBind
  enter := Binding.bound
  within_apply _ _ _ := bindWith_apply
  current_enter _ _ := current_opened (record_keeps frame_sameDepths)
  current_call hook host := hook.call_keeps frame_sameDepths host parameterBind

end Statement

/-! ## What a call does to a table -/

section Visits

open Attempt Host ParameterTable Statement

variable {α β : Type} {visit : Visit TableHook Binding α} {id : TableId} {capacity : Nat}

/-- What a call does to a table. A bind is recorded in its own table, if no setter encloses it and
its position is not zero. -/
def Visit.use? (id : TableId) (visit : Visit TableHook Binding α) : Option Use :=
  match visit.callee with
  | .hook (.bind binding) | .wrapper binding =>
    if binding.id = id ∧ visit.enclosing = [] ∧ binding.index ≠ 0 then
      some (.record binding.statement binding.index binding.value)
    else none
  | .hook (.execute other statement) | .hook (.take other statement)
  | .hook (.clear other statement) => if other = id then some (.forget statement) else none
  | .hook (.look other statement) => if other = id then some (.look statement) else none

/-- A use of one table leaves the others as they are. -/
theorem Statement.use_table {host : Host α} {other : TableId} {x : Attempt ParameterTable β}
    {use : Use} (hx : ∀ table, (x table).2 = use.apply table) :
    (Attempt.focus (tablePlace other) x host).2.table id =
      (if other = id then some use else none).elim (host.table id) (·.apply (host.table id)) := by
  rw [focus_apply, table_set]
  by_cases hid : other = id
  · subst hid
    rw [if_pos rfl, if_pos rfl]
    exact hx _
  · rw [if_neg hid, if_neg hid]
    rfl

/-- The counter tells which binds are recorded. -/
theorem Visit.Nested.bound_table (h : visit.Nested) {binding : Binding} :
    (binding.bound visit.host).table id =
      (if binding.id = id ∧ visit.enclosing = [] ∧ binding.index ≠ 0 then
        some (Use.record binding.statement binding.index binding.value) else none).elim
        (visit.host.table id) (·.apply (visit.host.table id)) := by
  have houtermost : visit.enclosing = [] ↔ visit.host.here.depths.current parameterBind = 0 :=
    h.enclosing_eq_nil_iff
  rw [Binding.bound, Statement.bound_table]
  simp only [houtermost]
  split_ifs <;> rfl

/-- A call does to a table what it must before anything that it encloses begins. -/
theorem Visit.Nested.after_table (h : visit.Nested) :
    visit.after.table id =
      (visit.use? id).elim (visit.host.table id) (·.apply (visit.host.table id)) := by
  obtain ⟨callee, enclosing, host⟩ := visit
  cases callee with
  | wrapper binding => exact h.bound_table
  | hook hook =>
    cases hook with
    | bind binding =>
      -- The body of this setter is empty.
      have hbind : (Statement.bind binding.id binding.statement binding.index binding.value host).2
          = (binding.bound host).uncounted parameterBind := by
        rw [Statement.bind, bindWith_apply]
        rfl
      show (Statement.bind _ _ _ _ host).2.table id = _
      rw [hbind]
      exact h.bound_table
    | execute other statement =>
      refine execute_table.trans ?_
      show _ = (if other = id then some (Use.forget statement) else none).elim _ _
      split_ifs <;> rfl
    | look other statement => exact use_table fun _ => rfl
    | take other statement => exact use_table fun _ => rfl
    | clear other statement => exact use_table fun _ => rfl

/-! ## Whole runs -/

/-- The table `id` of a host holds what the binds of a ledger leave. -/
def Statement.HoldsAt (capacity : Nat) (id : TableId) (host : Host α) (ledger : Ledger) : Prop :=
  (host.table id).Holds capacity ledger

/-- A call is booked by what it does to a table. -/
def Visit.Books (capacity : Nat) (id : TableId) (visit : Visit TableHook Binding α)
    (ledger ledger' : Ledger) : Prop :=
  ledger' = (visit.use? id).elim ledger (·.book capacity ledger)

/-- A chronicle of a ledger ends with the uses of the calls booked. -/
theorem Chronicle.booked {visits : List (Visit TableHook Binding α)} {ledger ledger' : Ledger}
    (h : Chronicle (HoldsAt capacity id) (Visit.Books capacity id) visits ledger ledger') :
    ledger' = (visits.filterMap (Visit.use? id)).foldl (fun ledger use => use.book capacity ledger)
      ledger :=
  h.eq_foldl

/-- The ledger of a table has a chronicle in a run. -/
theorem Statement.chronicled_ledger (p : Program TableHook Binding α β) {host : Host α}
    (hhost : host.here.depths.current parameterBind = 0)
    (htable : host.table id = ofCapacity capacity) :
    Chronicled (HoldsAt capacity id) (Visit.Books capacity id) 0 [] (p.visits [] host)
      (p.run host).2 := by
  refine p.chronicle_visits ?_ ?_ [] host [] ?_ hhost
  · intro host host' ledger _ htables h
    rw [HoldsAt, htables]
    exact h
  · intro visit ledger hnested hbefore
    refine ⟨_, rfl, ?_⟩
    rw [HoldsAt, hnested.after_table]
    cases visit.use? id with
    | none => exact hbefore
    | some use => exact hbefore.apply use
  · rw [HoldsAt, htable]
    exact holds_ofCapacity

/-- Over a whole run that begins with an empty table and outside of every setter, the table shows at
each call what the ledger of the uses before it says, and at the start of the body of a setter what
the ledger says with the bind of the setter booked. At the end it shows the ledger of the whole run,
and no setter is left running. -/
theorem Statement.table_tracks_uses (p : Program TableHook Binding α β) (host : Host α)
    (id : TableId) (capacity : Nat) (hhost : host.here.depths.current parameterBind = 0)
    (htable : host.table id = ofCapacity capacity) :
    ((p.run host).2.table id).Tracks capacity
      (ledger capacity ((p.visits [] host).filterMap (Visit.use? id))) ∧
    (∀ earlier visit later, p.visits [] host = earlier ++ visit :: later →
      visit.host.here.depths.current parameterBind = visit.enclosing.length ∧
      (visit.host.table id).Tracks capacity
        (ledger capacity (earlier.filterMap (Visit.use? id))) ∧
      (visit.after.table id).Tracks capacity
        (ledger capacity ((earlier ++ [visit]).filterMap (Visit.use? id)))) ∧
    (p.run host).2.here.depths.current parameterBind = 0 := by
  obtain ⟨final, hchronicle, hholds, hdepth⟩ := chronicled_ledger p hhost htable
  refine ⟨?_, ?_, hdepth⟩
  · rw [ledger, ← hchronicle.booked]
    exact hholds.tracks
  · intro earlier visit later hvisits
    rw [hvisits] at hchronicle
    obtain ⟨before, after, hearlier, ⟨hnested, hbefore, hstep, hafter⟩, -⟩ := hchronicle.split
    refine ⟨hnested, ?_, ?_⟩
    · rw [ledger, ← hearlier.booked]
      exact hbefore.tracks
    · -- The entry of the call is the last one of a longer chronicle.
      have hlast : Chronicle (HoldsAt capacity id) (Visit.Books capacity id) (earlier ++ [visit])
          [] after := hearlier.append (.cons hnested hbefore hstep hafter (.nil after))
      rw [ledger, ← hlast.booked]
      exact hafter.tracks

/-- Two statements share a table for one. A setter of the first one calls another setter and panics;
then the second one is bound and takes the place of the first. -/
def Statement.sharing : Program TableHook Binding Unit Unit :=
  .catching
    (.within ⟨0, ⟨1⟩, 1, .int 10⟩
      (.call (.bind ⟨0, ⟨1⟩, 1, .int 11⟩) fun _ =>
        (.fail (.text "closed") : Program _ _ _ Unit)) .done)
    fun _ => .call (.bind ⟨0, ⟨2⟩, 3, .null⟩) .done

theorem Statement.sharing_tracked :
    let host : Host Unit := { idle () with table := fun _ => ofCapacity 1 }
    host.here.depths.current parameterBind = 0 ∧ host.table 0 = ofCapacity 1 ∧
      ((sharing.run host).2.table 0).Tracks 1 [(⟨2⟩, [(3, .null)])] := by
  intro host
  have hledger : ledger 1 ((sharing.visits [] host).filterMap (Visit.use? 0)) =
      [(⟨2⟩, [(3, .null)])] := by decide +kernel
  refine ⟨CallDepths.current_empty, rfl, ?_⟩
  rw [← hledger]
  exact (Statement.table_tracks_uses sharing host 0 1 CallDepths.current_empty rfl).1

end Visits

end Telemetry
