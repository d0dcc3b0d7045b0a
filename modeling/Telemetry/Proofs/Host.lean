import Telemetry.Host
import Telemetry.Proofs.Attempt
import Telemetry.Proofs.Bridge.Memory

/-!
# What a host goes through

The host at the start and at the end of everything that runs a body: an instrumented call
(`Host.guarded_apply`), a thread (`Host.onThread_apply`) and a span (`Host.underSpan_apply`). In
each of them the body runs once, from the host at the start, and its outcome is kept.

A `Host.Frame` is a relation between a host before and a host after that the work of
instrumentations never breaks. To know that such work leaves something alone, it is enough to know
that the relation which says so is a frame.
-/

namespace Telemetry

/-- The record that a sink was given, whether it took it or panicked. -/
def Happening.handover? : Happening → Option (BridgeId × Emission)
  | handed bridge emission _ => some (bridge, emission)
  | _ => none

namespace Host

open Attempt (Keeps)

variable {α β : Type}

/-- The records that sinks were given so far, in order. -/
def handovers (host : Host α) : List (BridgeId × Emission) :=
  host.trace.filterMap Happening.handover?

/-- The host with one more happening in its trace. -/
def noted (happening : Happening) (host : Host α) : Host α :=
  { host with trace := host.trace ++ [happening] }

/-- The host after one more call of a kind began on the running thread. -/
def counted (kind : CallKind) (host : Host α) : Host α :=
  depthsPlace.set (host.here.depths.increment kind).2 host

/-- The host after a call of a kind ended on the running thread. -/
def uncounted (kind : CallKind) (host : Host α) : Host α :=
  depthsPlace.set (host.here.depths.decrement kind).2 host

/-- The host after a new thread took over. -/
def started (name : Option String) (host : Host α) : Host α :=
  { host with
    here := { info := { name, id := some host.nextThread } }
    nextThread := host.nextThread + 1 }

/-- The host after a span became active on the running thread. -/
def spanned (span : Span) (host : Host α) : Host α :=
  { host with here := { host.here with spans := span :: host.here.spans } }

/-- The host after the innermost active span of the running thread was left. -/
def unspanned (host : Host α) : Host α :=
  { host with here := { host.here with spans := host.here.spans.tail } }

/-- A host on which nothing has happened yet, with bridges that capture no extra data. -/
def idle (app : α) : Host α where
  app := app
  clock := ⟨0⟩
  here := { info := {} }
  nextThread := 1
  bridge _ := { mapper := fun framework => .ofSettings framework {} }
  table _ := .empty

/-- The host at which the body of an instrumented call begins, if the call does `step` before it
unless another call of its kind encloses it. -/
def opened (kind : CallKind) (step : Attempt (Host α) Unit) (host : Host α) : Host α :=
  if host.here.depths.current kind = 0 then (step (host.counted kind)).2 else host.counted kind

section Bodies

variable {host : Host α}

theorem handovers_noted {happening : Happening} :
    (host.noted happening).handovers = host.handovers ++ happening.handover?.toList := by
  rw [handovers, noted, List.filterMap_append]
  cases hhandover : happening.handover? <;> simp [hhandover, handovers]

theorem guarded_apply {kind : CallKind} {body : Call → Attempt (Host α) β} :
    guarded kind body host =
      let ended := body ⟨kind, host.here.depths.current kind⟩ (host.counted kind)
      (ended.1, ended.2.uncounted kind) := rfl

/-- An instrumented call that does a step of its own before a body ends as the body does, if the
step does not panic. -/
theorem guarded_opened_apply {kind : CallKind} {step : Attempt (Host α) Unit}
    {body : Attempt (Host α) β} (hstep : Attempt.Returns step) :
    guarded kind (fun call => do
      if call.isOutermost then step
      body) host =
      let ended := body (host.opened kind step)
      (ended.1, ended.2.uncounted kind) := by
  rw [guarded_apply, opened]
  by_cases hdepth : host.here.depths.current kind = 0
  · rw [if_pos hdepth]
    simp only [Call.isOutermost, hdepth, decide_true, if_true, hstep.bind_apply]
  · rw [if_neg hdepth]
    simp only [Call.isOutermost, hdepth, decide_false, Bool.false_eq_true, if_false]

theorem onThread_apply {name : Option String} {body : Attempt (Host α) β} :
    onThread name body host =
      let ended := body (host.started name)
      (.ok ended.1, { ended.2 with here := host.here }) := rfl

theorem underSpan_apply {span : Span} {body : Attempt (Host α) β} :
    underSpan span body host =
      let ended := body (host.spanned span)
      (.ok (ended.1, ended.2.activeSpan?.getD span), ended.2.unspanned) := rfl

/-- A bridge that is overwritten leaves the other bridges as they are. -/
theorem bridge_set {id other : BridgeId} {bridge : Bridge} :
    ((bridgePlace id).set bridge host).bridge other =
      if other = id then bridge else host.bridge other := rfl

/-- A bridge that is overwritten with itself stays as it is, and so does the host. -/
theorem bridge_set_self {id : BridgeId} : (bridgePlace id).set (host.bridge id) host = host := by
  have hbridge : (fun other => if other = id then host.bridge id else host.bridge other) =
      host.bridge := by
    funext other
    split
    next heq => rw [heq]
    next => rfl
  show { host with bridge := fun other => if other = id then host.bridge id else _ } = host
  rw [hbridge]

/-- A table that is overwritten leaves the other tables as they are. -/
theorem table_set {id other : TableId} {table : ParameterTable} :
    ((tablePlace id).set table host).table other =
      if id = other then table else host.table other := by
  show (if other = id then table else host.table other) = _
  by_cases hid : id = other
  · rw [if_pos hid.symm, if_pos hid]
  · rw [if_neg (Ne.symm hid), if_neg hid]

theorem current_counted {kind other : CallKind} :
    (host.counted kind).here.depths.current other =
      if kind = other then host.here.depths.current kind + 1
      else host.here.depths.current other :=
  CallDepths.current_increment

theorem current_counted_ne_zero {kind : CallKind} :
    (host.counted kind).here.depths.current kind ≠ 0 := by
  rw [current_counted, if_pos rfl]
  exact Nat.succ_ne_zero _

theorem current_uncounted {kind other : CallKind} :
    (host.uncounted kind).here.depths.current other =
      if kind = other then host.here.depths.current kind - 1
      else host.here.depths.current other :=
  CallDepths.current_decrement

end Bodies

/-! ## Frames -/

/-- A relation between a host before and a host after that instrumentations do not break: neither
by what they note, unless they hand over a record, nor by what they keep in bridges, tables and
spans, nor by counting a call while it is running. -/
structure Frame (R : Host α → Host α → Prop) : Prop where
  refl : ∀ host, R host host
  trans : ∀ a b c, R a b → R b c → R a c
  noted : ∀ happening host, happening.handover? = none → R host (host.noted happening)
  bridge : ∀ id bridge host, (host.bridge id).Evolves bridge →
    R host ((bridgePlace id).set bridge host)
  table : ∀ id table host, R host ((tablePlace id).set table host)
  spans : ∀ spans host, R host { host with here := { host.here with spans } }
  guarded : ∀ kind host host', R (host.counted kind) host' → R host (host'.uncounted kind)

section Frame

variable {R : Host α → Host α → Prop} {x : Attempt (Host α) β}

theorem Frame.pure (hR : Frame R) (b : β) : Keeps R (Pure.pure b : Attempt (Host α) β) := hR.refl

theorem Frame.liftM (hR : Frame R) (outcome : Except Panic β) :
    Keeps R (MonadLiftT.monadLift outcome : Attempt (Host α) β) := hR.refl

/-- Looking at the host is no work. -/
theorem Frame.get (hR : Frame R) : Keeps R (MonadState.get : Attempt (Host α) (Host α)) := hR.refl

theorem Frame.bind {γ : Type} (hR : Frame R) (hx : Keeps R x) {f : β → Attempt (Host α) γ}
    (hf : ∀ b, Keeps R (f b)) : Keeps R (x >>= f) :=
  Keeps.bind hR.trans hx hf

end Frame

/-- What an instrumented call does before a body keeps what its step keeps. -/
theorem Frame.opened (hR : Frame R) {step : Attempt (Host α) Unit} (hstep : Keeps R step)
    {kind : CallKind} {host : Host α} : R (host.counted kind) (host.opened kind step) := by
  rw [Host.opened]
  split
  · exact hstep _
  · exact hR.refl _

/-- The application has the same state before and after. -/
def SameApp (host host' : Host α) : Prop := host'.app = host.app

/-- The bridges have the same sinks before and after, and what they remember is faithful afterwards
if it was before. -/
def EvolvedBridges (host host' : Host α) : Prop :=
  ∀ id, (host.bridge id).Evolves (host'.bridge id)

/-- The same instrumented calls are on the stack of the running thread before and after. -/
def SameDepths (host host' : Host α) : Prop :=
  ∀ kind, host'.here.depths.current kind = host.here.depths.current kind

/-- The sinks were given the same records before and after. -/
def SameHandovers (host host' : Host α) : Prop := host'.handovers = host.handovers

/-- Nothing that had happened before is missing or changed after. -/
def GrownTrace (host host' : Host α) : Prop := host.trace <+: host'.trace

/-- The running thread and the time are the same before and after. -/
structure SamePlace (host host' : Host α) : Prop where
  here : host'.here = host.here
  clock : host'.clock = host.clock

theorem SamePlace.activeSpan?_eq {host host' : Host α} (h : SamePlace host host') :
    host'.activeSpan? = host.activeSpan? := by
  rw [activeSpan?, activeSpan?, h.here]

theorem frame_sameApp : Frame (SameApp (α := α)) where
  refl _ := rfl
  trans _ _ _ hab hbc := hbc.trans hab
  noted _ _ _ := rfl
  bridge _ _ _ _ := rfl
  table _ _ _ := rfl
  spans _ _ := rfl
  guarded _ _ _ h := h

theorem frame_evolvedBridges : Frame (EvolvedBridges (α := α)) where
  refl host id := Bridge.evolves_refl (host.bridge id)
  trans _ _ _ hab hbc id := (hab id).trans (hbc id)
  noted _ host _ id := Bridge.evolves_refl (host.bridge id)
  bridge id bridge host h other := by
    rw [bridge_set]
    split
    next heq => exact heq ▸ h
    next => exact Bridge.evolves_refl (host.bridge other)
  table _ _ host id := Bridge.evolves_refl (host.bridge id)
  spans _ host id := Bridge.evolves_refl (host.bridge id)
  guarded _ _ _ h := h

theorem evolvedBridges_noted (happening : Happening) (host : Host α) :
    EvolvedBridges host (host.noted happening) :=
  fun id => Bridge.evolves_refl (host.bridge id)

theorem sameApp_noted (happening : Happening) (host : Host α) :
    SameApp host (host.noted happening) := rfl

theorem sameDepths_noted (happening : Happening) (host : Host α) :
    SameDepths host (host.noted happening) := fun _ => rfl

theorem frame_sameDepths : Frame (SameDepths (α := α)) where
  refl _ _ := rfl
  trans _ _ _ hab hbc kind := (hbc kind).trans (hab kind)
  noted _ _ _ _ := rfl
  bridge _ _ _ _ _ := rfl
  table _ _ _ _ := rfl
  spans _ _ _ := rfl
  guarded kind host host' h other := by
    have hcounted := h other
    have hkind := h kind
    -- What was counted for the call is taken back, and no other counter was touched.
    rw [current_counted] at hcounted hkind
    rw [current_uncounted]
    split
    next heq => rw [hkind, if_pos rfl, Nat.add_sub_cancel, heq]
    next hne => rw [hcounted, if_neg hne]

/-- An instrumented call counts while its body runs. -/
theorem current_opened {kind : CallKind} {step : Attempt (Host α) Unit}
    (hstep : Keeps SameDepths step) {host : Host α} :
    (host.opened kind step).here.depths.current kind = host.here.depths.current kind + 1 := by
  rw [frame_sameDepths.opened hstep kind, current_counted, if_pos rfl]

theorem frame_grownTrace : Frame (GrownTrace (α := α)) where
  refl host := List.prefix_refl host.trace
  trans _ _ _ hab hbc := hab.trans hbc
  noted _ host _ := List.prefix_append host.trace _
  bridge _ _ host _ := List.prefix_refl host.trace
  table _ _ host := List.prefix_refl host.trace
  spans _ host := List.prefix_refl host.trace
  guarded _ _ _ h := h

theorem grownTrace_noted (happening : Happening) (host : Host α) :
    GrownTrace host (host.noted happening) := List.prefix_append host.trace _

/-- The sinks still have the records that they were given before. -/
theorem GrownTrace.handovers {host host' : Host α} (h : GrownTrace host host') :
    ∃ later, host'.handovers = host.handovers ++ later := by
  obtain ⟨added, htrace⟩ := h
  refine ⟨added.filterMap Happening.handover?, ?_⟩
  rw [Host.handovers, ← htrace, List.filterMap_append]
  rfl

theorem frame_sameHandovers : Frame (SameHandovers (α := α)) where
  refl _ := rfl
  trans _ _ _ hab hbc := hbc.trans hab
  noted happening host h := by
    rw [SameHandovers, handovers_noted, h, Option.toList_none, List.append_nil]
  bridge _ _ _ _ := rfl
  table _ _ _ := rfl
  spans _ _ := rfl
  guarded _ _ _ h := h

end Host

end Telemetry
