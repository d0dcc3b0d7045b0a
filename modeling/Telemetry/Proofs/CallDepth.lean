import Mathlib.Data.List.Induction
import Mathlib.Order.Bounds.Basic
import Telemetry.Proofs.Host
import Telemetry.Proofs.Keyed

/-!
# Counting calls

A thread changes its counters by increments and decrements, in any order and for any kinds, and a
counter that is at zero stays there. So surplus decrements are forgotten, and what a counter shows
depends on the order of the changes. The module says what it shows without the counter.

* `CallDepths.excesses`: by how much decrements of a kind outnumber increments, at each moment so
  far.
* `CallDepths.ThreadStep`: what happens while a thread runs. It changes its counters, or waits for
  another thread, which may do anything.
* `CallDepths.Guards`: a thread that begins calls and ends each of them once, in any order.

Main statement: a counter shows the increments less the decrements, plus the greatest excess of
decrements so far, whatever other threads do; and with calls that end in any order, it shows how
many of them are on the stack (`CallDepths.counters_track_calls`).
-/

namespace Telemetry

namespace CallDepths

variable {depths : CallDepths} {kind other : CallKind}

/-! ## Changes of counters -/

/-- A change of a counter. -/
inductive Change where
  | increment (kind : CallKind)
  | decrement (kind : CallKind)
deriving DecidableEq

/-- Changes a counter, and answers what the change answers. -/
def Change.apply : Change → CallDepths → Nat × CallDepths
  | increment kind, depths => depths.increment kind
  | decrement kind, depths => depths.decrement kind

/-- The counters after changes in the order of the list. -/
def changed (depths : CallDepths) (changes : List Change) : CallDepths :=
  changes.foldl (fun depths change => (change.apply depths).2) depths

/-- By how much the decrements of a kind outnumber its increments. -/
def excess (kind : CallKind) (changes : List Change) : Int :=
  changes.count (.decrement kind) - changes.count (.increment kind)

/-- By how much the decrements of a kind outnumbered its increments at some moment, from before the
first change to after the last one. -/
def excesses (kind : CallKind) (changes : List Change) : Set Int :=
  {n | ∃ earlier, earlier <+: changes ∧ excess kind earlier = n}

theorem changed_concat {changes : List Change} {change : Change} :
    depths.changed (changes ++ [change]) = (change.apply (depths.changed changes)).2 := by
  rw [changed, List.foldl_append]
  rfl

theorem excess_concat {changes : List Change} {change : Change} :
    excess kind (changes ++ [change]) = excess kind changes + excess kind [change] := by
  simp only [excess, List.count_append]
  omega

theorem excess_increment : excess kind [.increment other] = if other = kind then -1 else 0 := by
  by_cases hkind : other = kind <;> simp [excess, hkind]

theorem excess_decrement : excess kind [.decrement other] = if other = kind then 1 else 0 := by
  by_cases hkind : other = kind <;> simp [excess, hkind]

theorem excesses_nil : excesses kind [] = {0} := by
  ext n
  simp [excesses, excess, eq_comm]

/-- A change adds the moment after it. -/
theorem excesses_concat {changes : List Change} {change : Change} :
    excesses kind (changes ++ [change]) =
      insert (excess kind (changes ++ [change])) (excesses kind changes) := by
  ext n
  simp only [excesses, Set.mem_ofPred_eq, Set.mem_insert_iff, List.prefix_concat_iff]
  constructor
  · rintro ⟨earlier, rfl | hearlier, rfl⟩
    · exact Or.inl rfl
    · exact Or.inr ⟨earlier, hearlier, rfl⟩
  · rintro (rfl | ⟨earlier, hearlier, rfl⟩)
    · exact ⟨_, Or.inl rfl, rfl⟩
    · exact ⟨earlier, Or.inr hearlier, rfl⟩

/-- A change moves the counter of its kind by one, but not below zero, and no other counter. -/
theorem current_apply (change : Change) :
    ((change.apply depths).2.current kind : Int) =
      max 0 (depths.current kind - excess kind [change]) := by
  cases change with
  | increment changedKind =>
    rw [Change.apply, current_increment, excess_increment]
    split
    next heq => subst heq; omega
    next => omega
  | decrement changedKind =>
    rw [Change.apply, current_decrement, excess_decrement]
    split
    next heq => subst heq; omega
    next => omega

/-- A counter that begins at zero is above the excess by as much as the excess has ever been. -/
theorem current_changed (kind : CallKind) (changes : List Change) :
    ∃ peak, IsGreatest (excesses kind changes) peak ∧
      ((empty.changed changes).current kind : Int) = peak - excess kind changes := by
  induction changes using List.reverseRecOn with
  | nil =>
    refine ⟨0, ?_, ?_⟩
    · rw [excesses_nil]
      exact isGreatest_singleton
    · simp [changed, excess]
  | append_singleton changes change ih =>
    obtain ⟨peak, hpeak, hcurrent⟩ := ih
    -- The counter is stopped at zero just when the excess is greater than it has ever been.
    refine ⟨max (excess kind (changes ++ [change])) peak, ?_, ?_⟩
    · rw [excesses_concat]
      exact hpeak.insert _
    · rw [changed_concat, current_apply, hcurrent, excess_concat]
      omega

/-- No counter is kept at zero. -/
def Pruned (depths : CallDepths) : Prop := ∀ kind : CallKind, depths.counts[kind]? ≠ some 0

theorem pruned_empty : empty.Pruned := by
  intro kind
  simp [empty]

theorem Pruned.apply (h : depths.Pruned) (change : Change) : (change.apply depths).2.Pruned := by
  intro kind
  cases change with
  | increment changedKind =>
    simp only [Change.apply, increment, Std.TreeMap.getElem?_insert]
    split
    · simp
    · exact h kind
  | decrement changedKind =>
    simp only [Change.apply, decrement]
    split
    next =>
      rw [Std.TreeMap.getElem?_erase]
      split
      · simp
      · exact h kind
    next hleft =>
      rw [Std.TreeMap.getElem?_insert]
      split
      · simpa using hleft
      · exact h kind

theorem pruned_changed (changes : List Change) : (empty.changed changes).Pruned :=
  List.foldlRecOn changes _ pruned_empty fun _ h change _ => h.apply change

/-! ## Threads -/

variable {α : Type}

/-- Something that happens while a thread runs. -/
inductive ThreadStep (α : Type) where
  /-- The thread changes one of its counters. -/
  | own (change : Change)
  /-- The thread waits for a new one, which may do anything. -/
  | elsewhere (name : Option String) (body : Attempt (Host α) Unit)

/-- The change that a step makes of a counter of the thread. -/
def ThreadStep.change? : ThreadStep α → Option Change
  | own change => some change
  | elsewhere _ _ => none

/-- The host after a step of the running thread. -/
def ThreadStep.take (host : Host α) : ThreadStep α → Host α
  | own change => (Attempt.focus Host.depthsPlace (modifyGet change.apply) host).2
  | elsewhere name body => (Host.onThread name body host).2

/-- The counters of a thread are what the thread itself has made of them. -/
theorem depths_foldl_take {steps : List (ThreadStep α)} {host : Host α} :
    (steps.foldl ThreadStep.take host).here.depths =
      host.here.depths.changed (steps.filterMap ThreadStep.change?) := by
  induction steps generalizing host with
  | nil => rfl
  | cons step later ih =>
    rw [List.foldl_cons, ih]
    cases step with
    | own change => rfl
    | elsewhere name body => rw [ThreadStep.take, Host.onThread_apply]; rfl

/-! ## Calls that end in any order -/

/-- A thread that begins calls and ends each of them at most once, in any order. -/
structure Guards where
  /-- The counters of the thread. -/
  depths : CallDepths := .empty
  /-- How many calls have begun. -/
  begun : Nat := 0
  /-- The calls that have not ended, each with the number of calls that had begun before it. -/
  live : List (Nat × Call) := []

/-- The beginning or the end of a call. -/
inductive Guards.Use where
  | enter (kind : CallKind)
  | drop (number : Nat)

namespace Guards

/-- The thread after a call has begun or ended. A call that is not on the stack cannot end. -/
def apply (guards : Guards) : Use → Guards
  | .enter kind =>
    let (call, depths) := guards.depths.enter kind
    { depths, begun := guards.begun + 1, live := guards.live ++ [(guards.begun, call)] }
  | .drop number =>
    match guards.live.lookup number with
    | some call =>
      { guards with
        depths := guards.depths.leave call
        live := guards.live.erase (number, call) }
    | none => guards

/-- A thread after calls have begun and ended in the order of the list. -/
def after (uses : List Use) : Guards := uses.foldl apply {}

/-- How many calls of a kind have not ended. -/
def liveOf (guards : Guards) (kind : CallKind) : Nat :=
  guards.live.countP fun guard => guard.2.kind = kind

/-- How many calls of a kind have not ended that began as outermost calls. -/
def outermostOf (guards : Guards) (kind : CallKind) : Nat :=
  guards.live.countP fun guard => guard.2.kind = kind ∧ guard.2.isOutermost

/-- The counters show how many calls are on the stack, and no two of one kind are outermost. -/
structure Counted (guards : Guards) : Prop where
  current_eq : ∀ kind, guards.depths.current kind = guards.liveOf kind
  outermost_le : ∀ kind, guards.outermostOf kind ≤ 1

variable {guards : Guards} {kind : CallKind} {number : Nat} {call : Call} {uses : List Use}

theorem after_concat {use : Use} : after (uses ++ [use]) = (after uses).apply use := by
  rw [after, List.foldl_append]
  rfl

/-- The calls that have not ended are the one that ends and the others. -/
theorem live_perm (h : guards.live.lookup number = some call) :
    guards.live.Perm ((number, call) :: guards.live.erase (number, call)) :=
  List.perm_cons_erase (Keyed.mem_of_lookup_eq_some h)

theorem outermostOf_le_liveOf : guards.outermostOf kind ≤ guards.liveOf kind :=
  List.countP_mono_left fun guard _ h => by simp_all

/-- A call that begins is outermost if none of its kind is on the stack, and so it is the only
outermost one. -/
theorem Counted.enter (h : guards.Counted) (entered : CallKind) :
    (guards.apply (.enter entered)).Counted where
  current_eq kind := by
    rw [apply, liveOf, List.countP_append, List.countP_singleton, ← liveOf, ← h.current_eq]
    simp only [CallDepths.enter, current_increment]
    by_cases hkind : entered = kind <;> simp [hkind]
  outermost_le kind := by
    have hle : guards.outermostOf kind ≤ guards.liveOf kind := outermostOf_le_liveOf
    rw [apply, outermostOf, List.countP_append, List.countP_singleton, ← outermostOf]
    simp only [CallDepths.enter, increment, Call.isOutermost, h.current_eq]
    split
    next hnew =>
      obtain ⟨rfl, hnone⟩ : entered = kind ∧ guards.liveOf entered = 0 := by simpa using hnew
      omega
    next => exact h.outermost_le kind

/-- A call that ends is taken off the counter of its kind. -/
theorem Counted.drop (h : guards.Counted) (number : Nat) :
    (guards.apply (.drop number)).Counted := by
  rw [apply]
  split
  next call hlookup =>
    have hperm := live_perm hlookup
    refine ⟨fun kind => ?_, fun kind => ?_⟩
    · have hlive : guards.depths.current kind = _ := (h.current_eq kind).trans (hperm.countP_eq _)
      rw [List.countP_cons] at hlive
      rw [leave, current_decrement, liveOf]
      by_cases hkind : call.kind = kind
      · simp only [hkind, if_true, decide_true] at hlive ⊢
        omega
      · simpa [hkind] using hlive
    · exact Nat.le_trans (List.erase_sublist.countP_le) (h.outermost_le kind)
  next => exact h

theorem counted_after (uses : List Use) : (after uses).Counted := by
  refine List.foldlRecOn uses _ ⟨fun kind => current_empty, fun kind => Nat.zero_le 1⟩ ?_
  intro guards h use _
  cases use with
  | enter entered => exact h.enter entered
  | drop number => exact h.drop number

/-- A call that has not ended has begun once, at the depth of the calls that were there before. -/
theorem exists_enter {guard : Nat × Call} (h : guard ∈ (after uses).live) :
    ∃ earlier later, uses = earlier ++ .enter guard.2.kind :: later ∧
      (after earlier).begun = guard.1 ∧ guard.2.depth = (after earlier).liveOf guard.2.kind := by
  induction uses using List.reverseRecOn with
  | nil => cases h
  | append_singleton uses use ih =>
    -- Either the call begins with the last use, or it began before that and has not ended.
    have hcases : guard ∈ (after uses).live ∨ ∃ kind, use = .enter kind ∧
        guard = ((after uses).begun, ((after uses).depths.enter kind).1) := by
      rw [after_concat] at h
      cases use with
      | enter kind => simpa [apply, or_comm] using h
      | drop number =>
        rw [apply] at h
        split at h
        · exact Or.inl (List.mem_of_mem_erase h)
        · exact Or.inl h
    rcases hcases with hlive | ⟨kind, rfl, rfl⟩
    · obtain ⟨earlier, later, rfl, hbegun, hdepth⟩ := ih hlive
      exact ⟨earlier, later ++ [use], by simp, hbegun, hdepth⟩
    · exact ⟨uses, [], rfl, rfl, (counted_after uses).current_eq kind⟩

end Guards

/-! ## What counters show -/

/-- After any steps of a thread, whatever other threads do meanwhile, a counter shows the increments
of its kind less the decrements, plus the greatest excess of decrements so far, and none is kept at
zero; an increment answers what the counter showed before it and a decrement what it shows after it,
and neither touches the counters of other kinds. After calls have begun and ended in any order, a
counter shows how many calls of its kind have not ended. At most one of them is outermost, and a
call that has not ended is outermost just if none of its kind was on the stack when it began. -/
theorem counters_track_calls :
    (∀ (host : Host α) (name : Option String) (steps : List (ThreadStep α)) (kind : CallKind),
      let changes := steps.filterMap ThreadStep.change?
      let depths := (steps.foldl ThreadStep.take (host.started name)).here.depths
      (∃ peak : Int,
        IsGreatest {n : Int | ∃ earlier, earlier <+: changes ∧
          (earlier.count (.decrement kind) - earlier.count (.increment kind) : Int) = n} peak ∧
        (depths.current kind : Int) =
          changes.count (.increment kind) - changes.count (.decrement kind) + peak) ∧
      depths.counts[kind]? ≠ some 0 ∧
      (depths.increment kind).1 = depths.current kind ∧
      (depths.decrement kind).1 = (depths.decrement kind).2.current kind ∧
      ∀ other, other ≠ kind →
        (depths.increment other).2.current kind = depths.current kind ∧
        (depths.decrement other).2.current kind = depths.current kind) ∧
    (∀ (uses : List Guards.Use) (kind : CallKind),
      let guards := Guards.after uses
      guards.depths.current kind = guards.liveOf kind ∧
      guards.outermostOf kind ≤ 1 ∧
      ∀ guard ∈ guards.live, ∃ earlier later, uses = earlier ++ .enter guard.2.kind :: later ∧
        (Guards.after earlier).begun = guard.1 ∧
        (guard.2.isOutermost ↔ (Guards.after earlier).liveOf guard.2.kind = 0)) := by
  refine ⟨fun host name steps kind => ?_, fun uses kind => ?_⟩
  · intro changes depths
    have hdepths : depths = empty.changed changes := depths_foldl_take
    obtain ⟨peak, hpeak, hcurrent⟩ := current_changed kind changes
    refine ⟨⟨peak, hpeak, ?_⟩, ?_, rfl, ?_, fun other hother => ⟨?_, ?_⟩⟩
    · rw [hdepths, hcurrent, excess]
      omega
    · rw [hdepths]
      exact pruned_changed changes kind
    · rw [current_decrement, if_pos rfl]
      rfl
    · rw [current_increment, if_neg hother]
    · rw [current_decrement, if_neg hother]
  · have hcounted := Guards.counted_after uses
    refine ⟨hcounted.current_eq kind, hcounted.outermost_le kind, fun guard hguard => ?_⟩
    obtain ⟨earlier, later, huses, hbegun, hdepth⟩ := Guards.exists_enter hguard
    exact ⟨earlier, later, huses, hbegun, by simp [Call.isOutermost, hdepth]⟩

/-- A thread ends a call that never began, begins one, waits for a thread that begins one of the
same kind and does not end it, and begins and ends another one. -/
def interrupted : List (ThreadStep Unit) :=
  [.own (.decrement "sql"), .own (.increment "sql"),
    .elsewhere none (discard (Attempt.focus Host.depthsPlace
      (modifyGet (Change.increment "sql").apply) : Attempt (Host Unit) Nat)),
    .own (.increment "log"), .own (.increment "sql"), .own (.decrement "sql")]

/-- Of three calls, the one that began first ends first. -/
def outOfOrder : List Guards.Use := [.enter "sql", .enter "sql", .drop 0, .enter "sql"]

theorem interrupted_and_outOfOrder_tracked :
    let depths := (interrupted.foldl ThreadStep.take ((Host.idle ()).started none)).here.depths
    let guards := Guards.after outOfOrder
    "log" ≠ "sql" ∧
      (depths.increment "log").2.current "sql" = depths.current "sql" ∧
      depths.current "sql" = 1 ∧
      (1, ⟨"sql", 1⟩) ∈ guards.live ∧
      (∃ earlier later, outOfOrder = earlier ++ .enter "sql" :: later ∧
        (Guards.after earlier).begun = 1 ∧ (Guards.after earlier).liveOf "sql" ≠ 0) ∧
      guards.depths.current "sql" = 2 ∧ guards.outermostOf "sql" = 0 := by
  intro depths guards
  have hkinds : "log" ≠ "sql" := by decide
  have hlive : (1, ⟨"sql", 1⟩) ∈ guards.live := by decide +kernel
  obtain ⟨hsteps, huses⟩ := counters_track_calls (α := Unit)
  obtain ⟨-, -, -, -, hothers⟩ := hsteps (Host.idle ()) none interrupted "sql"
  obtain ⟨hcurrent, -, hbegan⟩ := huses outOfOrder "sql"
  obtain ⟨earlier, later, hsplit, hbegun, houtermost⟩ := hbegan _ hlive
  refine ⟨hkinds, (hothers "log" hkinds).1, by decide +kernel, hlive, ?_, ?_, by decide +kernel⟩
  · exact ⟨earlier, later, hsplit, hbegun, fun hnone => nomatch houtermost.mpr hnone⟩
  · exact hcurrent.trans (by decide +kernel)

end CallDepths

end Telemetry
