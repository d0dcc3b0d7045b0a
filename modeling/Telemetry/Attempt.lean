/-!
# Computations that may panic

An `Attempt σ α` reads and changes a state of type `σ` and ends in a value of type `α` or in a
panic. What was done to the state before a panic stays done: a panic abandons the rest of the
computation, not its effects so far. Instrumentation hooks rest on this distinction, since they
stop a panic at a boundary (`Attempt.outcome`) and go on with the state it left behind.

The module also holds `Lens`, through which a computation on a part runs on the whole.
-/

namespace Telemetry

/-- What a panicking computation throws. -/
inductive Panic where
  /-- A payload that carries a text. -/
  | text (message : String)
  /-- A payload of any other kind. -/
  | unreadable
deriving DecidableEq, Repr

/-- The reason that is reported for a panic. -/
def Panic.message : Panic → String
  | .text message => message
  | .unreadable => "unknown panic payload"

/-- A place of type `ρ` inside a state of type `σ`. -/
structure Lens (σ ρ : Type) where
  /-- The content of the place. -/
  get : σ → ρ
  /-- The state with the place overwritten. -/
  set : ρ → σ → σ

namespace Lens

variable {σ ρ τ : Type}

/-- The whole state as a place. -/
protected def id : Lens σ σ where
  get s := s
  set s _ := s

/-- A place inside a place. -/
def comp (outer : Lens σ ρ) (inner : Lens ρ τ) : Lens σ τ where
  get s := inner.get (outer.get s)
  set t s := outer.set (inner.set t (outer.get s)) s

/-- The first component of a pair. -/
def fst : Lens (σ × ρ) σ where
  get s := s.1
  set a s := (a, s.2)

end Lens

/-- A computation over a state that ends in a value or in a panic, and in a state either way. -/
def Attempt (σ α : Type) : Type := σ → Except Panic α × σ

namespace Attempt

variable {σ ρ α β : Type}

instance : Monad (Attempt σ) where
  pure a s := (.ok a, s)
  bind x f s :=
    match x s with
    | (.ok a, s) => f a s
    | (.error panic, s) => (.error panic, s)

instance : MonadStateOf σ (Attempt σ) where
  get s := (.ok s, s)
  set s _ := (.ok (), s)
  modifyGet f s := (.ok (f s).1, (f s).2)

/-- Ends as the given outcome says, without touching the state. -/
def ofOutcome (outcome : Except Panic α) : Attempt σ α := fun s => (outcome, s)

instance : MonadLift (Except Panic) (Attempt σ) := ⟨ofOutcome⟩

/-- Panics. -/
def raise (panic : Panic) : Attempt σ α := ofOutcome (.error panic)

/-- Runs `x` behind a boundary that no panic passes: a panic becomes a value. -/
def outcome (x : Attempt σ α) : Attempt σ (Except Panic α) := fun s =>
  let (result, s) := x s
  (.ok result, s)

/-- Runs `x`, then `cleanup` on the state, whether `x` panicked or not. -/
def ensuring (x : Attempt σ α) (cleanup : σ → σ) : Attempt σ α := fun s =>
  let (result, s) := x s
  (result, cleanup s)

/-- Runs a computation on the place that `lens` points at. -/
def focus (lens : Lens σ ρ) (x : Attempt ρ α) : Attempt σ α := fun s =>
  let (result, r) := x (lens.get s)
  (result, lens.set r s)

section Laws

variable {s : σ} {a : α} {panic : Panic} {x : Attempt σ α} {f : α → Attempt σ β}

@[simp] theorem pure_apply : (pure a : Attempt σ α) s = (.ok a, s) := rfl

theorem bind_apply : (x >>= f) s =
    match x s with
    | (.ok a, s) => f a s
    | (.error panic, s) => (.error panic, s) := rfl

@[simp] theorem ofOutcome_apply {o : Except Panic α} :
    (ofOutcome o : Attempt σ α) s = (o, s) := rfl

@[simp] theorem raise_apply : (raise panic : Attempt σ α) s = (.error panic, s) := rfl

@[simp] theorem outcome_apply : x.outcome s = (.ok (x s).1, (x s).2) := rfl

@[simp] theorem ensuring_apply {cleanup : σ → σ} :
    x.ensuring cleanup s = ((x s).1, cleanup (x s).2) := rfl

@[simp] theorem focus_apply {lens : Lens ρ σ} {r : ρ} :
    x.focus lens r = ((x (lens.get r)).1, lens.set (x (lens.get r)).2 r) := rfl

@[simp] theorem get_apply : (get : Attempt σ σ) s = (.ok s, s) := rfl

@[simp] theorem set_apply {t : σ} : (set t : Attempt σ Unit) s = (.ok (), t) := rfl

@[simp] theorem modifyGet_apply {g : σ → α × σ} :
    (modifyGet g : Attempt σ α) s = (.ok (g s).1, (g s).2) := rfl

@[simp] theorem modify_apply {g : σ → σ} : (modify g : Attempt σ Unit) s = (.ok (), g s) := rfl

instance : LawfulMonad (Attempt σ) := LawfulMonad.mk' (Attempt σ)
  (by
    intro α x
    funext s
    show (x >>= fun a => pure a) s = x s
    rw [bind_apply]
    split <;> simp_all)
  (by intros; rfl)
  (by
    intro α β γ x f g
    funext s
    simp only [bind_apply]
    cases x s with
    | mk o t => cases o <;> rfl)

end Laws

end Attempt

end Telemetry
