import Std.Data.TreeMap

/-!
# Call depth

Instrumented functions often call each other, and only the outermost call may produce telemetry. A
thread therefore counts, for each kind of instrumented call, how many of them are on its stack. A
kind without such a call has no counter.
-/

namespace Telemetry

/-- The name of an independent counter. -/
abbrev CallKind := String

/-- The counters of one thread. -/
structure CallDepths where
  /-- The counter of each kind that has one. -/
  counts : Std.TreeMap CallKind Nat := ∅

namespace CallDepths

/-- No call is on the stack. -/
def empty : CallDepths := {}

/-- How many calls of a kind are on the stack. -/
def current (depths : CallDepths) (kind : CallKind) : Nat := depths.counts.getD kind 0

/-- Counts one more call of a kind, and answers how many there were before. -/
def increment (depths : CallDepths) (kind : CallKind) : Nat × CallDepths :=
  (depths.current kind, ⟨depths.counts.insert kind (depths.current kind + 1)⟩)

/-- Counts one call of a kind less, and answers how many are left. A counter that would reach zero
is dropped, and there is no going below zero. -/
def decrement (depths : CallDepths) (kind : CallKind) : Nat × CallDepths :=
  let left := depths.current kind - 1
  (left, ⟨if left = 0 then depths.counts.erase kind else depths.counts.insert kind left⟩)

variable {depths : CallDepths} {kind other : CallKind}

@[simp] theorem current_empty : empty.current kind = 0 := by
  simp [current, empty]

theorem current_increment :
    (depths.increment kind).2.current other =
      if kind = other then depths.current kind + 1 else depths.current other := by
  simp only [increment, current, Std.TreeMap.getD_insert, Std.LawfulEqCmp.compare_eq_iff_eq]

theorem current_decrement :
    (depths.decrement kind).2.current other =
      if kind = other then depths.current kind - 1 else depths.current other := by
  simp only [decrement, current]
  by_cases h : depths.counts.getD kind 0 - 1 = 0
  · simp only [h, if_true, Std.TreeMap.getD_erase, Std.LawfulEqCmp.compare_eq_iff_eq]
  · simp only [h, if_false, Std.TreeMap.getD_insert, Std.LawfulEqCmp.compare_eq_iff_eq]

end CallDepths

/-- A call that is on the stack, with the number of calls of its kind that were there before it. -/
structure Call where
  /-- The counter it was counted by. -/
  kind : CallKind
  /-- How many calls of the kind were on the stack when it began. -/
  depth : Nat
deriving DecidableEq, Repr

/-- Whether no call of its kind was on the stack when the call began. -/
def Call.isOutermost (call : Call) : Bool := call.depth = 0

/-- Begins a call. -/
def CallDepths.enter (depths : CallDepths) (kind : CallKind) : Call × CallDepths :=
  let (depth, depths) := depths.increment kind
  (⟨kind, depth⟩, depths)

/-- Ends a call, in whatever order calls end. -/
def CallDepths.leave (depths : CallDepths) (call : Call) : CallDepths :=
  (depths.decrement call.kind).2

end Telemetry
