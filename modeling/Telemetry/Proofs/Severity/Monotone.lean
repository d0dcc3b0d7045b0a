import Mathlib.Data.List.Nodup
import Telemetry.Framework

/-!
# Severity grows along the scale

A ladder takes the severity of the first step that covers a value. What covers a value covers every
lesser one too, so the first step for a lesser value comes no later, whatever the order of the
bounds is. A value beyond all steps may be left without a severity, which stands above all of them.

* `Ladder.Rising`: the severities of a ladder do not decrease.
* `Ladder.Sorted`: its bounds go from the least to the most severe, without a repetition.
* `Ladder.Nearest`: the step with the nearest bound at or beyond a value.

Main statement: the severities that a rising ladder gives do not decrease along the scale, a sorted
one gives those of the nearest steps, and the ladders of all frameworks are both
(`Ladder.severity_monotone`).
-/

namespace Telemetry

/-! ## Scales -/

namespace Scale

variable {scale : Scale} {a b c : Int}

theorem atMost_refl (scale : Scale) (a : Int) : scale.AtMost a a := by
  cases scale <;> exact Int.le_refl a

theorem atMost_trans (hab : scale.AtMost a b) (hbc : scale.AtMost b c) : scale.AtMost a c := by
  cases scale with
  | ascending => exact Int.le_trans hab hbc
  | descending => exact Int.le_trans hbc hab

theorem atMost_antisymm (hab : scale.AtMost a b) (hba : scale.AtMost b a) : a = b := by
  cases scale with
  | ascending => exact Int.le_antisymm hab hba
  | descending => exact Int.le_antisymm hba hab

/-- Whether a value is less severe than a bound. -/
def Below (scale : Scale) (value bound : Int) : Prop := scale.AtMost value bound ∧ value ≠ bound

instance (scale : Scale) (value bound : Int) : Decidable (scale.Below value bound) :=
  inferInstanceAs (Decidable (_ ∧ _))

end Scale

namespace Ladder

variable {ladder : Ladder} {scale : Scale} {steps : List (Int × Severity)} {value a b : Int}
  {step other : Int × Severity}

/-- The severities of the steps do not decrease from one step to the next, and neither does that of
the values beyond them. -/
structure Rising (ladder : Ladder) : Prop where
  steps : ladder.steps.Pairwise fun step later => step.2 ≤ later.2
  beyond : ∀ severity ∈ ladder.beyond, ∀ step ∈ ladder.steps, step.2 ≤ severity

/-- Each bound is more severe than those before it. -/
def Sorted (ladder : Ladder) : Prop :=
  ladder.steps.Pairwise fun step later => ladder.scale.Below step.1 later.1

/-- A step of the ladder whose bound is the nearest to a value of those at or beyond it. -/
structure Nearest (ladder : Ladder) (value : Int) (step : Int × Severity) : Prop where
  mem : step ∈ ladder.steps
  covers : ladder.scale.AtMost value step.1
  least : ∀ other ∈ ladder.steps, ladder.scale.AtMost value other.1 →
    ladder.scale.AtMost step.1 other.1

/-! ## The first step that covers a value -/

/-- The severity of the first step that covers the value, and of values that none covers. -/
theorem severity?_eq (h : ladder.off ≠ some value) :
    ladder.severity? value =
      ((ladder.steps.find? fun step => ladder.scale.AtMost value step.1).map (·.2)).or
        ladder.beyond := by
  rw [severity?, if_neg h]
  cases ladder.steps.find? fun step => ladder.scale.AtMost value step.1 <;> rfl

/-- Below a value that a step covers, the first step comes no later and has no greater severity. -/
theorem find?_covers_of_atMost
    (hsteps : steps.Pairwise fun step later => step.2 ≤ later.2) (hab : scale.AtMost a b)
    (hb : steps.find? (fun step => scale.AtMost b step.1) = some other) :
    ∃ step, steps.find? (fun step => scale.AtMost a step.1) = some step ∧ step.2 ≤ other.2 := by
  induction steps with
  | nil => cases hb
  | cons head rest ih =>
    obtain ⟨hhead, hrest⟩ := List.pairwise_cons.mp hsteps
    rw [List.find?_cons] at hb ⊢
    by_cases ha : scale.AtMost a head.1
    · -- The head is the first step for the lesser value, and the greater one's is here or later.
      refine ⟨head, by simp [ha], ?_⟩
      split at hb
      · cases hb
        exact Nat.le_refl _
      · exact hhead other (List.mem_of_find?_eq_some hb)
    · have hb' : ¬ scale.AtMost b head.1 := fun h => ha (Scale.atMost_trans hab h)
      simp only [hb', decide_false] at hb
      simpa only [ha, decide_false] using ih hrest hb

/-- What has a severity is above all lesser values, which have severities too. -/
theorem Rising.severity?_le (h : ladder.Rising) (ha : ladder.off ≠ some a)
    (hb : ladder.off ≠ some b) (hab : ladder.scale.AtMost a b) {severity : Severity}
    (hseverity : ladder.severity? b = some severity) :
    ∃ lesser, ladder.severity? a = some lesser ∧ lesser ≤ severity := by
  rw [severity?_eq hb] at hseverity
  rw [severity?_eq ha]
  rcases hfirst : ladder.steps.find? fun step => ladder.scale.AtMost b step.1 with _ | other
  · -- The value is beyond all steps, and the lesser one is covered by a step or beyond them too.
    rw [hfirst, Option.map_none, Option.none_or] at hseverity
    rcases hlesser : ladder.steps.find? fun step => ladder.scale.AtMost a step.1 with _ | step
    · exact ⟨severity, by rwa [hlesser], Nat.le_refl _⟩
    · have hstep : step ∈ ladder.steps := List.mem_of_find?_eq_some hlesser
      exact ⟨step.2, by rw [hlesser]; rfl, h.beyond severity hseverity step hstep⟩
  · rw [hfirst] at hseverity
    cases hseverity
    obtain ⟨step, hstep, hle⟩ := find?_covers_of_atMost h.steps hab hfirst
    exact ⟨step.2, by rw [hstep]; rfl, hle⟩

/-! ## The nearest step -/

/-- In a sorted ladder the first step that covers a value is the nearest one. -/
theorem Sorted.nearest (h : ladder.Sorted)
    (hfirst : ladder.steps.find? (fun step => ladder.scale.AtMost value step.1) = some step) :
    ladder.Nearest value step := by
  obtain ⟨hcovers, before, after, hsteps, hbefore⟩ := List.find?_eq_some_iff_append.mp hfirst
  refine ⟨List.mem_of_find?_eq_some hfirst, of_decide_eq_true hcovers, ?_⟩
  intro other hother hvalue
  rw [Sorted, hsteps, List.pairwise_append] at h
  obtain ⟨-, hlater, -⟩ := h
  rw [hsteps, List.mem_append, List.mem_cons] at hother
  rcases hother with hother | rfl | hother
  · -- No step before the first one covers the value.
    simpa [hvalue] using hbefore other hother
  · exact ladder.scale.atMost_refl _
  · exact ((List.pairwise_cons.mp hlater).1 other hother).1

/-- In a sorted ladder no two steps are nearest to a value. -/
theorem Sorted.nearest_unique (h : ladder.Sorted) (hstep : ladder.Nearest value step)
    (hother : ladder.Nearest value other) : other = step := by
  have hbound : step.1 = other.1 :=
    Scale.atMost_antisymm (hstep.least other hother.mem hother.covers)
      (hother.least step hstep.mem hstep.covers)
  have hbounds : (ladder.steps.map Prod.fst).Nodup :=
    List.pairwise_map.mpr (h.imp fun hbelow => hbelow.2)
  exact List.inj_on_of_nodup_map hbounds hother.mem hstep.mem hbound.symm

/-- In a sorted ladder a value that some bound covers has the severity of its nearest step. -/
theorem Sorted.severity?_nearest (h : ladder.Sorted) (hoff : ladder.off ≠ some value)
    (hcovered : ∃ step ∈ ladder.steps, ladder.scale.AtMost value step.1) :
    ∃ step, (∀ other, ladder.Nearest value other ↔ other = step) ∧
      ladder.severity? value = some step.2 := by
  rcases hfirst : ladder.steps.find? fun step => ladder.scale.AtMost value step.1 with _ | step
  · obtain ⟨step, hstep, hvalue⟩ := hcovered
    simpa [hvalue] using List.find?_eq_none.mp hfirst step hstep
  · have hnearest : ladder.Nearest value step := h.nearest hfirst
    refine ⟨step, fun other => ⟨h.nearest_unique hnearest, fun heq => heq ▸ hnearest⟩, ?_⟩
    rw [severity?_eq hoff, hfirst]
    rfl

/-- A value that no bound covers is beyond the ladder. -/
theorem severity?_beyond (hoff : ladder.off ≠ some value)
    (hbeyond : ∀ step ∈ ladder.steps, ¬ ladder.scale.AtMost value step.1) :
    ladder.severity? value = ladder.beyond := by
  have hnone : ladder.steps.find? (fun step => ladder.scale.AtMost value step.1) = none :=
    List.find?_eq_none.mpr fun step hstep => by simpa using hbeyond step hstep
  rw [severity?_eq hoff, hnone]
  rfl

/-! ## Severities -/

/-- The ladders of the frameworks rise, and their bounds are sorted. -/
theorem rising_and_sorted (framework : Framework) :
    framework.ladder.Rising ∧ framework.ladder.Sorted := by
  cases framework <;> exact ⟨⟨by decide, by decide⟩, by unfold Sorted; decide⟩

/-- The value that turns logging off has no severity, and is left out of what follows. On a ladder
that rises, in whatever order its bounds are, the severities of values do not decrease along the
scale, and above a value without a severity there is none. If the bounds are sorted too, a value
that some bound covers has the severity of the nearest bound at or beyond it, and any other value
that of what is beyond the ladder. The ladders of all frameworks rise and are sorted. -/
theorem severity_monotone :
    (∀ ladder : Ladder, ladder.Rising → ∀ a b, ladder.off ≠ some a → ladder.off ≠ some b →
      ladder.scale.AtMost a b →
        (∀ severity, ladder.severity? b = some severity →
          ∃ lesser, ladder.severity? a = some lesser ∧ lesser ≤ severity) ∧
        (ladder.severity? a = none → ladder.severity? b = none)) ∧
    (∀ ladder : Ladder, ladder.Rising → ladder.Sorted → ∀ value, ladder.off ≠ some value →
      ((∃ step ∈ ladder.steps, ladder.scale.AtMost value step.1) →
        ∃ step, (∀ other, ladder.Nearest value other ↔ other = step) ∧
          ladder.severity? value = some step.2) ∧
      ((∀ step ∈ ladder.steps, ¬ ladder.scale.AtMost value step.1) →
        ladder.severity? value = ladder.beyond)) ∧
    ∀ framework : Framework, framework.ladder.Rising ∧ framework.ladder.Sorted := by
  refine ⟨fun ladder h a b ha hb hab => ?_, fun ladder _ h value hoff => ?_, rising_and_sorted⟩
  · refine ⟨fun severity => h.severity?_le ha hb hab, fun hunset => ?_⟩
    -- A severity of the greater value would give the lesser one a severity.
    rcases hseverity : ladder.severity? b with _ | severity
    · rfl
    · obtain ⟨lesser, hlesser, -⟩ := h.severity?_le ha hb hab hseverity
      cases hunset.symm.trans hlesser
  · exact ⟨h.severity?_nearest hoff, severity?_beyond hoff⟩

/-- A ladder that rises though its bounds are in no order, with a hole inside its scale. -/
def wavy : Ladder where
  scale := .ascending
  steps := [(20, ⟨.info, 0⟩), (10, ⟨.warn, 0⟩), (30, ⟨.warn, 1⟩)]
  off := some 15

theorem wavy_monotone :
    wavy.Rising ∧
    (∃ lesser, wavy.severity? 12 = some lesser ∧ lesser ≤ ⟨.warn, 1⟩) ∧
    wavy.severity? 32 = none ∧
    (∃ step, (∀ other, Framework.log4j2.ladder.Nearest 350 other ↔ other = step) ∧
      Framework.log4j2.ladder.severity? 350 = some step.2) ∧
    Framework.log4j2.ladder.severity? 50 = none := by
  have hwavy : wavy.Rising := ⟨by decide, by decide⟩
  obtain ⟨hmonotone, hnearest, hframeworks⟩ := severity_monotone
  obtain ⟨hrising, hsorted⟩ := hframeworks .log4j2
  exact ⟨hwavy,
    (hmonotone wavy hwavy 12 25 (by decide) (by decide) (by decide)).1 _ rfl,
    (hmonotone wavy hwavy 31 32 (by decide) (by decide) (by decide)).2 rfl,
    (hnearest _ hrising hsorted 350 (by decide)).1 (by decide),
    (hnearest _ hrising hsorted 50 (by decide)).2 (by decide)⟩

end Ladder

end Telemetry
