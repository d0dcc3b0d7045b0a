import Telemetry.Proofs.Host
import Telemetry.Proofs.Program.Basic

/-!
# Programs without wrappers

The program that is left when every wrapper is removed and its body stays (`Program.unwrapped`), and
when it is the same to the application (`Program.simulates_unwrapped`): if instrumentations do not
panic and leave the state of the application alone (`Transparent`), and the program does not look
at what its hooks answer (`Program.Oblivious`).
-/

namespace Telemetry

open Attempt Host

/-! ## Programs in sequence -/

namespace Program

variable {κ : Type → Type} {ω α β γ : Type}

/-- Runs a program, and then what follows it. -/
def bind {β γ : Type} : Program κ ω α β → (β → Program κ ω α γ) → Program κ ω α γ
  | done answer, rest => rest answer
  | act x next, rest => act x fun answer => bind (next answer) rest
  | call hook next, rest => call hook fun answer => bind (next answer) rest
  | within wrapper body next, rest => within wrapper body fun answer => bind (next answer) rest
  | catching body next, rest => catching body fun ended => bind (next ended) rest
  | onThread name body next, rest => onThread name body fun ended => bind (next ended) rest
  | underSpan span body next, rest => underSpan span body fun ended => bind (next ended) rest

theorem run_bind [Instrumentation κ ω] {p : Program κ ω α β} {rest : β → Program κ ω α γ} :
    (p.bind rest).run = p.run >>= fun answer => (rest answer).run := by
  induction p with
  | done answer => rw [bind, run, pure_bind]
  | act x next ih | call hook next ih | within wrapper body next _ ih | catching body next _ ih
  | onThread name body next _ ih | underSpan span body next _ ih =>
    rw [bind, run, run, bind_assoc]
    exact bind_congr fun _ => ih _

/-! ## Removing wrappers -/

/-- The program without its wrappers. Their bodies stay in their places. -/
def unwrapped {β : Type} : Program κ ω α β → Program κ Empty α β
  | done answer => done answer
  | act x next => act x fun answer => unwrapped (next answer)
  | call hook next => call hook fun answer => unwrapped (next answer)
  -- What the wrapper did is gone, and what followed it follows the body.
  | within _ body next => (unwrapped body).bind fun answer => unwrapped (next answer)
  | catching body next => catching (unwrapped body) fun ended => unwrapped (next ended)
  | onThread name body next => onThread name (unwrapped body) fun ended => unwrapped (next ended)
  | underSpan span body next => underSpan span (unwrapped body) fun ended => unwrapped (next ended)

/-- What the program does next never depends on what a hook answered. -/
def Oblivious {β : Type} : Program κ ω α β → Prop
  | done _ => True
  | act _ next => ∀ answer, Oblivious (next answer)
  | call _ next => (∀ answer answer', next answer = next answer') ∧
      ∀ answer, Oblivious (next answer)
  | within _ body next => Oblivious body ∧ ∀ answer, Oblivious (next answer)
  | catching body next | onThread _ body next | underSpan _ body next =>
    Oblivious body ∧ ∀ ended, Oblivious (next ended)

end Program

/-! ## Transparent instrumentations -/

/-- Instrumentations that the application cannot tell from none: hooks answer and leave the state of
the application alone, and a wrapped body does to it what it does on its own. -/
class Transparent (κ : Type → Type) (ω : Type) [Instrumentation κ ω] [Instrumentation κ Empty] :
    Prop where
  /-- A hook answers in any case. -/
  returns_call {α β : Type} (hook : κ β) :
    Returns (Instrumentation.call (ω := ω) hook : Attempt (Host α) β)
  /-- A hook does not touch the application. -/
  call_keeps {α β : Type} (hook : κ β) :
    Keeps SameApp (Instrumentation.call (ω := ω) hook : Attempt (Host α) β)
  /-- Without wrappers, hooks are the same. -/
  call_eq {α β : Type} (hook : κ β) :
    (Instrumentation.call (ω := Empty) hook : Attempt (Host α) β) =
      Instrumentation.call (ω := ω) hook
  /-- A wrapped body does to the application what it does on its own. -/
  within_simulates {α β : Type} (wrapper : ω) {x y : Attempt (Host α) β}
    (h : Simulates SameApp x y) : Simulates SameApp (Instrumentation.within κ wrapper x) y

namespace Program

variable {κ : Type → Type} {ω α β : Type} [Instrumentation κ ω] [Instrumentation κ Empty]
  [Transparent κ ω]

/-- To the application, a program with wrappers is the program without them: from hosts with the
same state of the application, both end in the same way and with the same such state. -/
theorem simulates_unwrapped {p : Program κ ω α β} (hp : p.Oblivious) :
    Simulates SameApp p.run p.unwrapped.run := by
  induction p with
  | done answer => exact simulates_pure answer
  | act x next ih =>
    refine Simulates.bind (fun host host' h => ?_) fun answer => ih answer (hp answer)
    show (x host.app).1 = (x host'.app).1 ∧ (x host'.app).2 = (x host.app).2
    rw [show host'.app = host.app from h]
    exact ⟨rfl, rfl⟩
  | call hook next ih =>
    intro host host' h
    -- The two hooks may answer differently, but what follows is the same for both answers.
    obtain ⟨answer, hanswer⟩ := Transparent.returns_call (ω := ω) hook host
    obtain ⟨answer', hanswer'⟩ := Transparent.returns_call (ω := ω) hook host'
    have hsame : SameApp (Instrumentation.call (ω := ω) hook host).2
        (Instrumentation.call (ω := ω) hook host').2 :=
      calc (Instrumentation.call (ω := ω) hook host').2.app
          = host'.app := Transparent.call_keeps hook host'
        _ = host.app := h
        _ = (Instrumentation.call (ω := ω) hook host).2.app :=
          (Transparent.call_keeps hook host).symm
    rw [unwrapped, run, run, Transparent.call_eq (ω := ω), bind_ok (Prod.ext hanswer rfl),
      bind_ok (Prod.ext hanswer' rfl), hp.1 answer' answer]
    exact ih answer (hp.2 answer) hsame
  | within wrapper body next ihbody ih =>
    -- Without its wrapper the body comes in sequence with what follows it.
    rw [unwrapped, run_bind]
    exact (Transparent.within_simulates wrapper (ihbody hp.1)).bind fun answer =>
      ih answer (hp.2 answer)
  | catching body next ihbody ih =>
    exact (ihbody hp.1).outcome.bind fun ended => ih ended (hp.2 ended)
  | onThread name body next ihbody ih =>
    -- The threads may get different numbers, which the application does not see.
    refine Simulates.bind (fun host host' h => ?_) fun ended => ih ended (hp.2 ended)
    obtain ⟨hended, hstate⟩ := @ihbody hp.1 (host.started name) (host'.started name) h
    exact ⟨congrArg Except.ok hended, hstate⟩
  | underSpan span body next ihbody ih =>
    intro host host' h
    -- What became of the span may differ, but no program looks at it.
    obtain ⟨hended, hstate⟩ := @ihbody hp.1 (host.spanned span) (host'.spanned span) h
    rw [unwrapped, run, run, bind_apply, bind_apply, underSpan_apply, underSpan_apply]
    simp only [hended]
    exact ih _ (hp.2 _) hstate

end Program

end Telemetry
