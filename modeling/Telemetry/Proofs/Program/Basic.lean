import Telemetry.Host

/-!
# Programs of a host

An application that uses instrumentations, as a tree: what it does next is at the root, and what
follows may depend on the answer. A program computes on its own state, panics and catches panics,
starts threads and waits for them, opens spans, calls the hooks of instrumentations, and runs
bodies, which are programs again, inside of their wrappers.
-/

namespace Telemetry

/-- What instrumentations offer to an application: hooks `κ`, each with the type of its answer, and
wrappers `ω`, which run a body. -/
class Instrumentation (κ : Type → Type) (ω : Type) where
  /-- Calls a hook. -/
  call {α β : Type} : κ β → Attempt (Host α) β
  /-- Runs a body inside of a wrapper. -/
  within {α β : Type} : ω → Attempt (Host α) β → Attempt (Host α) β

/-- A program with a state of its own of type `α` that ends in a value of type `β`. -/
inductive Program (κ : Type → Type) (ω α : Type) : Type → Type 1 where
  /-- Ends. -/
  | done {β : Type} (answer : β) : Program κ ω α β
  /-- Computes on the state of the application, and may panic. -/
  | act {β γ : Type} (x : Attempt α γ) (next : γ → Program κ ω α β) : Program κ ω α β
  /-- Calls a hook. -/
  | call {β γ : Type} (hook : κ γ) (next : γ → Program κ ω α β) : Program κ ω α β
  /-- Runs a body inside of a wrapper. A panic of the body is one of the program. -/
  | within {β γ : Type} (wrapper : ω) (body : Program κ ω α γ) (next : γ → Program κ ω α β) :
      Program κ ω α β
  /-- Runs a body and catches its panic. -/
  | catching {β γ : Type} (body : Program κ ω α γ) (next : Except Panic γ → Program κ ω α β) :
      Program κ ω α β
  /-- Runs a body on a new thread and waits for it. -/
  | onThread {β γ : Type} (name : Option String) (body : Program κ ω α γ)
      (next : Except Panic γ → Program κ ω α β) : Program κ ω α β
  /-- Runs a body with a span active, and catches its panic. -/
  | underSpan {β γ : Type} (span : Span) (body : Program κ ω α γ)
      (next : Except Panic γ → Program κ ω α β) : Program κ ω α β

namespace Program

variable {κ : Type → Type} {ω α β : Type} [Instrumentation κ ω]

/-- Panics. -/
def fail (panic : Panic) : Program κ ω α β := act (Attempt.raise panic) done

/-- Runs a program. -/
def run {β : Type} : Program κ ω α β → Attempt (Host α) β
  | done answer => pure answer
  | act x next => do run (next (← Attempt.focus Host.appPlace x))
  | call hook next => do run (next (← Instrumentation.call (ω := ω) hook))
  | within wrapper body next => do run (next (← Instrumentation.within κ wrapper (run body)))
  | catching body next => do run (next (← (run body).outcome))
  | onThread name body next => do run (next (← Host.onThread name (run body)))
  | underSpan span body next => do run (next (← Host.underSpan span (run body)).1)

end Program

end Telemetry
