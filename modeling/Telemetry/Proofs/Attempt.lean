import Telemetry.Attempt

/-!
# Reasoning about computations

Properties of computations that hold whatever a computation is run on, with the lemmas that carry
them through everything that computations are built from.

* `Attempt.Returns x`: `x` never panics.
* `Attempt.Blames P x`: `x` panics only in ways that `P` allows.
* `Attempt.Keeps R x`: the state before and the state after `x` are related by `R`, whether `x`
  panics or not.
* `Attempt.Simulates R x y`: from states related by `R`, `x` and `y` end in the same way, be it a
  value or a panic, and in related states.
-/

namespace Telemetry.Attempt

variable {σ ρ α β : Type} {x : Attempt σ α}

theorem bind_ok {f : α → Attempt σ β} {s t : σ} {a : α} (h : x s = (.ok a, t)) :
    (x >>= f) s = f a t := by
  rw [bind_apply, h]

theorem bind_error {f : α → Attempt σ β} {s t : σ} {panic : Panic} (h : x s = (.error panic, t)) :
    (x >>= f) s = (.error panic, t) := by
  rw [bind_apply, h]

/-- A sequence ends in a value just if both of its parts do. -/
theorem bind_eq_ok_iff {f : α → Attempt σ β} {s u : σ} {b : β} :
    (x >>= f) s = (.ok b, u) ↔ ∃ a t, x s = (.ok a, t) ∧ f a t = (.ok b, u) := by
  constructor
  · intro h
    rw [bind_apply] at h
    cases hxs : x s with
    | mk ended t =>
      rw [hxs] at h
      cases ended with
      | ok a => exact ⟨a, t, rfl, h⟩
      | error panic => cases h
  · rintro ⟨a, t, hx, hf⟩
    exact (bind_ok hx).trans hf

/-- What follows an outcome ends in a value just if the outcome is one. -/
theorem liftM_bind_eq_ok_iff {outcome : Except Panic α} {f : α → Attempt σ β} {s u : σ} {b : β} :
    (liftM outcome >>= f) s = (.ok b, u) ↔ ∃ a, outcome = .ok a ∧ f a s = (.ok b, u) := by
  constructor
  · intro h
    cases outcome with
    | ok a => exact ⟨a, rfl, h⟩
    | error panic => cases h
  · rintro ⟨a, rfl, h⟩
    exact h

/-- Dropping the value of a computation leaves its state as it is. -/
theorem discard_snd {s : σ} : ((discard x : Attempt σ Unit) s).2 = (x s).2 := by
  show ((x >>= fun _ => pure ()) s).2 = (x s).2
  rw [bind_apply]
  cases x s with
  | mk ended t => cases ended <;> rfl

/-! ## Computations that never panic -/

/-- `x` ends in a value, whatever it is run on. -/
def Returns (x : Attempt σ α) : Prop := ∀ s, ∃ a, (x s).1 = .ok a

theorem returns_pure (a : α) : Returns (pure a : Attempt σ α) := fun _ => ⟨a, rfl⟩

theorem returns_outcome (x : Attempt σ α) : Returns x.outcome := fun _ => ⟨_, rfl⟩

theorem returns_get : Returns (MonadState.get : Attempt σ σ) := fun _ => ⟨_, rfl⟩

theorem Returns.bind (hx : Returns x) {f : α → Attempt σ β} (hf : ∀ a, Returns (f a)) :
    Returns (x >>= f) := by
  intro s
  obtain ⟨a, ha⟩ := hx s
  obtain ⟨b, hb⟩ := hf a (x s).2
  exact ⟨b, (congrArg Prod.fst (bind_ok (Prod.ext ha rfl))).trans hb⟩

theorem Returns.focus {lens : Lens ρ σ} (hx : Returns x) : Returns (Attempt.focus lens x) :=
  fun _ => hx _

theorem Returns.discard (hx : Returns x) : Returns (discard x : Attempt σ Unit) :=
  Returns.bind hx fun _ => returns_pure ()

/-- What follows a computation that does not panic starts from the state it leaves behind. -/
theorem Returns.bind_apply {x : Attempt σ Unit} (hx : Returns x) {f : Unit → Attempt σ β} {s : σ} :
    (x >>= f) s = f () (x s).2 := by
  obtain ⟨⟨⟩, hended⟩ := hx s
  exact bind_ok (Prod.ext hended rfl)

/-! ## Where panics come from -/

section Blames

variable {P : Panic → Prop}

/-- `x` panics only in ways that `P` allows. -/
def Blames (P : Panic → Prop) (x : Attempt σ α) : Prop :=
  ∀ s panic, (x s).1 = .error panic → P panic

theorem Returns.blames (hx : Returns x) : Blames P x := by
  intro s panic h
  obtain ⟨a, ha⟩ := hx s
  cases ha.symm.trans h

theorem blames_liftM {outcome : Except Panic α} (h : ∀ panic, outcome = .error panic → P panic) :
    Blames P (liftM outcome : Attempt σ α) := fun _ => h

theorem Blames.bind (hx : Blames P x) {f : α → Attempt σ β} (hf : ∀ a, Blames P (f a)) :
    Blames P (x >>= f) := by
  intro s panic h
  rw [bind_apply] at h
  cases hxs : x s with
  | mk ended t =>
    rw [hxs] at h
    cases ended with
    | ok a => exact hf a t panic h
    | error panic' =>
      cases h
      exact hx s panic (congrArg Prod.fst hxs)

end Blames

/-! ## Relations that computations keep -/

/-- `R` relates the state before `x` to the state after it. -/
def Keeps (R : σ → σ → Prop) (x : Attempt σ α) : Prop := ∀ s, R s (x s).2

section Keeps

variable {R : σ → σ → Prop}

theorem Keeps.of_apply (hx : Keeps R x) {s t : σ} {ended : Except Panic α} (h : x s = (ended, t)) :
    R s t := by
  have hkept := hx s
  rwa [h] at hkept

/-- A relation that is transitive is kept by a sequence of computations that keep it. -/
theorem Keeps.bind (htrans : ∀ s t u, R s t → R t u → R s u) (hx : Keeps R x)
    {f : α → Attempt σ β} (hf : ∀ a, Keeps R (f a)) : Keeps R (x >>= f) := by
  intro s
  rw [bind_apply]
  cases hxs : x s with
  | mk ended t =>
    have hfirst : R s t := hx.of_apply hxs
    cases ended with
    | ok a => exact htrans _ _ _ hfirst (hf a t)
    | error panic => exact hfirst

theorem Keeps.outcome (hx : Keeps R x) : Keeps R x.outcome := hx

theorem Keeps.discard (hx : Keeps R x) : Keeps R (discard x : Attempt σ Unit) := by
  intro s
  rw [discard_snd]
  exact hx s

end Keeps

/-! ## Simulation -/

section Simulates

variable {τ : Type} {R : σ → τ → Prop} {y : Attempt τ α}

/-- From related states, `x` and `y` end in the same way and in related states. -/
def Simulates (R : σ → τ → Prop) (x : Attempt σ α) (y : Attempt τ α) : Prop :=
  ∀ ⦃s t⦄, R s t → (x s).1 = (y t).1 ∧ R (x s).2 (y t).2

theorem simulates_pure (a : α) : Simulates R (pure a) (pure a) :=
  fun _ _ h => ⟨rfl, h⟩

theorem simulates_ofOutcome (outcome : Except Panic α) :
    Simulates R (ofOutcome outcome) (ofOutcome outcome) :=
  fun _ _ h => ⟨rfl, h⟩

/-- Computations in sequence simulate each other if their parts do. -/
theorem Simulates.bind (hx : Simulates R x y) {f : α → Attempt σ β} {g : α → Attempt τ β}
    (hf : ∀ a, Simulates R (f a) (g a)) : Simulates R (x >>= f) (y >>= g) := by
  intro s t h
  obtain ⟨houtcome, hstate⟩ := hx h
  rw [bind_apply, bind_apply]
  -- Both end in the same way, so either both go on or both stop here.
  cases hxs : x s with
  | mk ended s' =>
    cases hyt : y t with
    | mk ended' t' =>
      simp only [hxs, hyt] at houtcome hstate
      subst houtcome
      cases ended with
      | ok a => exact hf a hstate
      | error panic => exact ⟨rfl, hstate⟩

/-- What follows a look at the state may use what the relation says of the states. -/
theorem Simulates.get_bind {f : σ → Attempt σ β} {g : τ → Attempt τ β}
    (h : ∀ s t, R s t → Simulates R (f s) (g t)) :
    Simulates R (MonadState.get >>= f) (MonadState.get >>= g) :=
  fun s t hst => h s t hst hst

/-- A boundary keeps a simulation. -/
theorem Simulates.outcome (hx : Simulates R x y) : Simulates R x.outcome y.outcome := by
  intro s t h
  obtain ⟨houtcome, hstate⟩ := hx h
  exact ⟨congrArg Except.ok houtcome, hstate⟩

end Simulates

end Telemetry.Attempt
