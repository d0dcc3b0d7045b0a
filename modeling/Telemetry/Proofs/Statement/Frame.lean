import Telemetry.Proofs.Host
import Telemetry.Statement.Tracking

/-!
# What statement tracking leaves alone

Binding a parameter and running a statement never panic, and they keep every frame. What they do
shows in the tables of parameters (`Statement.execute_table`, `Statement.bindWith_apply`), in the
active span and in the trace.
-/

namespace Telemetry.Statement

open Attempt Host

variable {α β : Type} {id : TableId} {statement : StatementId} {index : Nat}
  {value : ParameterValue} {host : Host α}

/-! ## Binding -/

/-- Recording a bind does not panic. -/
theorem returns_record (id : TableId) (statement : StatementId) (index : Nat)
    (value : ParameterValue) : Returns (record (α := α) id statement index value) := by
  intro host
  rw [record]
  split <;> exact ⟨(), rfl⟩

/-- The host at which the body of a setter begins. The parameter is recorded by then, unless
another setter encloses this one. -/
def bound (id : TableId) (statement : StatementId) (index : Nat) (value : ParameterValue)
    (host : Host α) : Host α :=
  host.opened parameterBind (record id statement index value)

/-- The body of a setter runs once, and the setter ends as the body does. -/
theorem bindWith_apply {body : Attempt (Host α) β} :
    bindWith id statement index value body host =
      let ended := body (bound id statement index value host)
      (ended.1, ended.2.uncounted parameterBind) :=
  guarded_opened_apply (returns_record id statement index value)

/-- A bind is recorded in the table it is for, if no other setter encloses it and its position is
not zero. -/
theorem bound_table {other : TableId} :
    (bound id statement index value host).table other =
      if id = other ∧ host.here.depths.current parameterBind = 0 ∧ index ≠ 0 then
        (ParameterTable.put statement index value (host.table other)).2
      else host.table other := by
  rw [bound, opened]
  by_cases hdepth : host.here.depths.current parameterBind = 0
  · rw [if_pos hdepth, record]
    by_cases hindex : index = 0
    · rw [if_pos hindex, if_neg fun h => h.2.2 hindex]
      rfl
    · rw [if_neg hindex, focus_apply, table_set]
      by_cases hid : id = other
      · subst hid
        rw [if_pos rfl, if_pos ⟨rfl, hdepth, hindex⟩]
        rfl
      · rw [if_neg hid, if_neg fun h => hid h.1]
        rfl
  · rw [if_neg hdepth, if_neg fun h => hdepth h.2.1]
    rfl

/-! ## Running a statement -/

/-- What becomes of the parameters of a statement that runs, once the table forgot them. -/
def settle (statement : StatementId) : Option Parameters → Attempt (Host α) (Option String)
  | none => pure none
  | some parameters => do
    if parameters.isEmpty then return none
    let rendered := Parameters.render parameters
    match ← Attempt.outcome (attach rendered) with
    | .ok attached => return if attached then some rendered else none
    | .error panic =>
      report (.executePanicked statement panic.message)
      return none

theorem execute_eq :
    execute (α := α) id statement =
      Attempt.focus (tablePlace id) (modifyGet (·.remove statement)) >>= settle statement := by
  rw [execute]
  refine bind_congr fun found => ?_
  cases found <;> rfl

/-- A panic of the span is reported. -/
theorem returns_settle (statement : StatementId) (found : Option Parameters) :
    Returns (settle (α := α) statement found) := by
  cases found with
  | none => exact returns_pure none
  | some parameters =>
    rw [settle]
    split
    · exact returns_pure none
    · refine Returns.bind (returns_outcome _) fun attached => ?_
      cases attached with
      | ok attached => exact returns_pure _
      | error panic => exact Returns.bind (fun host => ⟨(), rfl⟩) fun _ => returns_pure none

/-- Running a statement does not panic. -/
theorem returns_execute (id : TableId) (statement : StatementId) :
    Returns (execute (α := α) id statement) := by
  rw [execute_eq]
  exact Returns.bind (fun host => ⟨_, rfl⟩) (returns_settle statement)

/-! ## What is kept -/

section Keeps

variable {R : Host α → Host α → Prop}

/-- Parameters show in the active span and in what is reported, and nowhere else. -/
theorem settle_keeps (hrefl : ∀ host, R host host) (htrans : ∀ a b c, R a b → R b c → R a c)
    (hspans : ∀ spans host, R host { host with here := { host.here with spans } })
    (hreported : ∀ diagnostic host, R host (host.noted (.reported diagnostic)))
    (found : Option Parameters) : Keeps R (settle statement found) := by
  have hattach : ∀ rendered, Keeps R (attach rendered) := by
    intro rendered host
    rw [attach]
    split
    · split
      · exact hspans _ host
      · exact hrefl host
    · exact hrefl host
  cases found with
  | none => exact hrefl
  | some parameters =>
    rw [settle]
    split
    · exact hrefl
    · refine Keeps.bind htrans (hattach _).outcome fun attached => ?_
      cases attached with
      | ok attached => exact hrefl
      | error panic =>
        -- The span panicked, which is reported.
        exact Keeps.bind (x := report (.executePanicked statement panic.message)) htrans
          (hreported _) fun _ => hrefl

/-- A statement that runs is forgotten, whatever becomes of its parameters. -/
theorem execute_table {other : TableId} :
    (execute id statement host).2.table other =
      if id = other then ((host.table other).remove statement).2 else host.table other := by
  have hsettled : ∀ found, Keeps (fun host host' : Host α => host'.table = host.table)
      (settle statement found) :=
    settle_keeps (fun _ => rfl) (fun _ _ _ hab hbc => hbc.trans hab) (fun _ _ => rfl)
      (fun _ _ => rfl)
  -- The parameters are out of the table before anything else can go wrong.
  have hforgotten : Attempt.focus (tablePlace id) (modifyGet (·.remove statement)) host =
      (.ok ((host.table id).remove statement).1,
        (tablePlace id).set ((host.table id).remove statement).2 host) := rfl
  rw [execute_eq, bind_ok hforgotten, hsettled, table_set]
  by_cases hid : id = other
  · rw [if_pos hid, if_pos hid, hid]
  · rw [if_neg hid, if_neg hid]

variable (hR : Frame R)
include hR

theorem record_keeps : Keeps R (record id statement index value) := by
  intro host
  rw [record]
  split
  · exact hR.noted _ host rfl
  · exact hR.table id _ host

/-- A setter keeps what its body keeps. -/
theorem bindWith_keeps {body : Attempt (Host α) β} (hbody : Keeps R body) :
    Keeps R (bindWith id statement index value body) := by
  intro host
  rw [bindWith_apply]
  refine hR.guarded _ _ _ ?_
  exact hR.trans _ _ _ (hR.opened (record_keeps hR)) (hbody _)

theorem execute_keeps : Keeps R (execute id statement) := by
  rw [execute_eq]
  refine hR.bind (fun host => hR.table id _ host) ?_
  exact settle_keeps hR.refl hR.trans hR.spans fun _ host => hR.noted _ host rfl

end Keeps

end Telemetry.Statement
