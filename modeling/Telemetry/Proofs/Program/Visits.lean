import Telemetry.Proofs.Host
import Telemetry.Proofs.Program.Basic

/-!
# The instrumented calls of a program

A run of a program visits its instrumentation: it calls hooks and enters wrappers, one after the
other. `Program.visits` lists these visits in the order in which they begin, each with the host it
begins at and with the wrappers that enclose it on its thread. Which wrappers enclose a visit is
read off the program alone, not off any counter.

Main statement: what instrumentations keep in a host develops from visit to visit
(`Program.chronicle_visits`). At each visit the counter of the running thread says how many
wrappers enclose it (`Visit.Nested`), whatever panicked before it and on whatever thread it runs.
-/

namespace Telemetry

/-- An instrumentation whose wrappers count their bodies while they run. A wrapper does all its own
work before the body begins, and its hooks leave the count as it was. -/
class Nesting (κ : Type → Type) (ω : Type) extends Instrumentation κ ω where
  /-- The kind by which bodies are counted. -/
  kind : CallKind
  /-- The host at which the body of a wrapper begins. -/
  enter {α : Type} : ω → Host α → Host α
  /-- The body runs once, and ends as it ends on its own. -/
  within_apply {α β : Type} (wrapper : ω) (body : Attempt (Host α) β) (host : Host α) :
    within wrapper body host =
      let ended := body (enter wrapper host)
      (ended.1, ended.2.uncounted kind)
  /-- The body is counted when it begins. -/
  current_enter {α : Type} (wrapper : ω) (host : Host α) :
    (enter wrapper host).here.depths.current kind = host.here.depths.current kind + 1
  /-- A hook ends all that it counts. -/
  current_call {α β : Type} (hook : κ β) (host : Host α) :
    (call hook host).2.here.depths.current kind = host.here.depths.current kind

/-! ## Visits -/

/-- A hook that is called, or a wrapper that is entered. -/
inductive Callee (κ : Type → Type) (ω : Type) : Type 1 where
  | hook {β : Type} (hook : κ β) : Callee κ ω
  | wrapper (wrapper : ω) : Callee κ ω

/-- A call of an instrumentation in a run of a program. -/
structure Visit (κ : Type → Type) (ω α : Type) : Type 1 where
  /-- What is called. -/
  callee : Callee κ ω
  /-- The wrappers whose bodies are running on the thread, from the innermost outwards. -/
  enclosing : List ω
  /-- The host at which the call begins. -/
  host : Host α

namespace Visit

variable {κ : Type → Type} {ω α : Type} [Nesting κ ω]

/-- The host after a call of a hook, or at the start of the body of a wrapper. -/
def after (visit : Visit κ ω α) : Host α :=
  match visit.callee with
  | .hook hook => (Instrumentation.call (ω := ω) hook visit.host).2
  | .wrapper wrapper => Nesting.enter κ wrapper visit.host

/-- The counter says how many wrappers enclose the call. -/
def Nested (visit : Visit κ ω α) : Prop :=
  visit.host.here.depths.current (Nesting.kind κ ω) = visit.enclosing.length

/-- The counter tells outermost calls from others. -/
theorem Nested.enclosing_eq_nil_iff {visit : Visit κ ω α} (h : visit.Nested) :
    visit.enclosing = [] ↔ visit.host.here.depths.current (Nesting.kind κ ω) = 0 := by
  rw [h, List.length_eq_zero_iff]

end Visit

namespace Program

variable {κ : Type → Type} {ω α β γ : Type} [Nesting κ ω]

/-- The visits of what follows a computation, which is nothing if that panicked. -/
def continued (ran : Except Panic γ × Host α) (next : γ → Host α → List (Visit κ ω α)) :
    List (Visit κ ω α) :=
  match ran with
  | (.ok answer, host) => next answer host
  | (.error _, _) => []

/-- The calls of the instrumentation in a run of a program, in the order in which they begin. -/
def visits {β : Type} : Program κ ω α β → List ω → Host α → List (Visit κ ω α)
  | done _, _, _ => []
  | act x next, enclosing, host =>
    continued (Attempt.focus Host.appPlace x host) fun answer => visits (next answer) enclosing
  | call hook next, enclosing, host =>
    ⟨.hook hook, enclosing, host⟩ ::
      continued (Instrumentation.call (ω := ω) hook host) fun answer =>
        visits (next answer) enclosing
  | within wrapper body next, enclosing, host =>
    ⟨.wrapper wrapper, enclosing, host⟩ ::
      (visits body (wrapper :: enclosing) (Nesting.enter κ wrapper host) ++
        continued (Instrumentation.within κ wrapper body.run host) fun answer =>
          visits (next answer) enclosing)
  | catching body next, enclosing, host =>
    visits body enclosing host ++
      continued (body.run.outcome host) fun ended => visits (next ended) enclosing
  | onThread name body next, enclosing, host =>
    -- No wrapper encloses what runs on the new thread.
    visits body [] (host.started name) ++
      continued (Host.onThread name body.run host) fun ended => visits (next ended) enclosing
  | underSpan span body next, enclosing, host =>
    visits body enclosing (host.spanned span) ++
      continued (Host.underSpan span body.run host) fun ended => visits (next ended.1) enclosing

end Program

/-! ## Chronicles -/

section Chronicle

variable {κ : Type → Type} {ω α τ : Type} [Nesting κ ω] {Holds : Host α → τ → Prop}
  {Step : Visit κ ω α → τ → τ → Prop}

/-- What `t` says of a host before the first of some visits, and `t'` after the last of them, with
a step at each visit that holds of the host before it and of the host after it. -/
inductive Chronicle (Holds : Host α → τ → Prop) (Step : Visit κ ω α → τ → τ → Prop) :
    List (Visit κ ω α) → τ → τ → Prop where
  | nil (t : τ) : Chronicle Holds Step [] t t
  | cons {visit : Visit κ ω α} {later : List (Visit κ ω α)} {t t' t'' : τ}
      (nested : visit.Nested) (before : Holds visit.host t) (step : Step visit t t')
      (after : Holds visit.after t') (rest : Chronicle Holds Step later t' t'') :
      Chronicle Holds Step (visit :: later) t t''

theorem Chronicle.append {earlier later : List (Visit κ ω α)} {t t' t'' : τ}
    (h : Chronicle Holds Step earlier t t') (h' : Chronicle Holds Step later t' t'') :
    Chronicle Holds Step (earlier ++ later) t t'' := by
  induction h with
  | nil => exact h'
  | cons nested before step after _ ih => exact .cons nested before step after (ih h')

/-- A chronicle up to a visit, its entry, and the rest. -/
theorem Chronicle.split {earlier later : List (Visit κ ω α)} {visit : Visit κ ω α} {t t' : τ}
    (h : Chronicle Holds Step (earlier ++ visit :: later) t t') :
    ∃ u u', Chronicle Holds Step earlier t u ∧
      (visit.Nested ∧ Holds visit.host u ∧ Step visit u u' ∧ Holds visit.after u') ∧
      Chronicle Holds Step later u' t' := by
  -- The chronicle has one entry for each visit, so the list of visits says where to split it.
  induction earlier generalizing t with
  | nil =>
    cases h with
    | cons nested before step after rest =>
      exact ⟨t, _, .nil t, ⟨nested, before, step, after⟩, rest⟩
  | cons first earlier ih =>
    cases h with
    | cons nested before step after rest =>
      obtain ⟨u, u', hearlier, hvisit, hlater⟩ := ih rest
      exact ⟨u, u', .cons nested before step after hearlier, hvisit, hlater⟩

/-- If each visit does something or nothing to `t`, and says which, then a chronicle ends with all
of it done. -/
theorem Chronicle.eq_foldl {υ : Type} {use? : Visit κ ω α → Option υ} {apply : υ → τ → τ}
    {visits : List (Visit κ ω α)} {t t' : τ}
    (h : Chronicle Holds (fun visit t t' => t' = (use? visit).elim t (apply · t)) visits t t') :
    t' = (visits.filterMap use?).foldl (fun t use => apply use t) t := by
  induction h with
  | nil => rfl
  | @cons visit later t _ _ nested before step after rest ih =>
    -- A visit that does nothing is passed over on both sides.
    rw [ih, step]
    cases huse : use? visit with
    | none => rw [List.filterMap_cons_none huse]; rfl
    | some use => rw [List.filterMap_cons_some huse]; rfl

/-- Some visits have a chronicle from `t` to what holds of the host they leave behind, and that has
the given number of wrapped bodies on its thread. -/
def Chronicled (Holds : Host α → τ → Prop) (Step : Visit κ ω α → τ → τ → Prop) (depth : Nat)
    (t : τ) (visits : List (Visit κ ω α)) (host : Host α) : Prop :=
  ∃ t', Chronicle Holds Step visits t t' ∧ Holds host t' ∧
    host.here.depths.current (Nesting.kind κ ω) = depth

variable {β γ : Type}

/-- What follows a computation develops from where that computation ended. -/
theorem Chronicled.continued {depth : Nat} {t : τ} (visits : List (Visit κ ω α))
    {x : Attempt (Host α) γ} {host : Host α} {rest : γ → Attempt (Host α) β}
    {next : γ → Host α → List (Visit κ ω α)}
    (hx : Chronicled Holds Step depth t visits (x host).2)
    (hrest : ∀ answer t', Holds (x host).2 t' →
      (x host).2.here.depths.current (Nesting.kind κ ω) = depth →
      Chronicled Holds Step depth t' (next answer (x host).2) (rest answer (x host).2).2) :
    Chronicled Holds Step depth t (visits ++ Program.continued (x host) next)
      ((x >>= rest) host).2 := by
  rw [Attempt.bind_apply]
  obtain ⟨t', hvisits, hholds, hdepth⟩ := hx
  cases hran : x host with
  | mk ended host' =>
    rw [hran] at hrest hholds hdepth
    cases ended with
    | ok answer =>
      obtain ⟨t'', hlater, hend⟩ := hrest answer t' hholds hdepth
      exact ⟨t'', hvisits.append hlater, hend⟩
    | error panic =>
      -- The panic goes on, and so do the state and the count that it found.
      exact ⟨t', by simpa [Program.continued] using hvisits, hholds, hdepth⟩

/-! ## Runs -/

/-- Whatever holds of a host by its trace and its tables alone, and develops at each single visit,
develops along a whole run, and the run ends all calls that it counted. -/
theorem Program.chronicle_visits
    (hsame : ∀ host host' t, host'.trace = host.trace → host'.table = host.table →
      Holds host t → Holds host' t)
    (hstep : ∀ (visit : Visit κ ω α) t, visit.Nested → Holds visit.host t →
      ∃ t', Step visit t t' ∧ Holds visit.after t')
    (p : Program κ ω α β) (enclosing : List ω) (host : Host α) (t : τ) (hholds : Holds host t)
    (hdepth : host.here.depths.current (Nesting.kind κ ω) = enclosing.length) :
    Chronicled Holds Step enclosing.length t (p.visits enclosing host) (p.run host).2 := by
  induction p generalizing enclosing host t with
  | done answer => exact ⟨t, .nil t, hholds, hdepth⟩
  | act x next ih =>
    -- The application touches neither trace nor tables nor counters.
    refine Chronicled.continued [] ?_ fun answer t' => ih answer _ _ t'
    exact ⟨t, .nil t, hsame host _ t rfl rfl hholds, hdepth⟩
  | call hook next ih =>
    let visit : Visit κ ω _ := ⟨.hook hook, enclosing, host⟩
    obtain ⟨t', hvisit, hafter⟩ := hstep visit t hdepth hholds
    refine Chronicled.continued [visit] ?_ fun answer t' => ih answer _ _ t'
    exact ⟨t', .cons hdepth hholds hvisit hafter (.nil t'), hafter,
      (Nesting.current_call hook host).trans hdepth⟩
  | within wrapper body next ihbody ih =>
    let visit : Visit κ ω _ := ⟨.wrapper wrapper, enclosing, host⟩
    obtain ⟨t', hvisit, hafter⟩ := hstep visit t hdepth hholds
    -- The body runs one level deeper, and the level is left with it.
    obtain ⟨t'', hbody, hended, hdeeper⟩ :=
      ihbody (wrapper :: enclosing) (Nesting.enter κ wrapper host) t' hafter (by
        rw [Nesting.current_enter, hdepth, List.length_cons])
    refine Chronicled.continued (visit :: body.visits _ _) ?_ fun answer t' => ih answer _ _ t'
    refine ⟨t'', .cons hdepth hholds hvisit hafter hbody, ?_, ?_⟩
    · rw [Nesting.within_apply]
      exact hsame (body.run (Nesting.enter κ wrapper host)).2 _ t'' rfl rfl hended
    · rw [Nesting.within_apply, Host.current_uncounted, if_pos rfl, hdeeper, List.length_cons,
        Nat.add_sub_cancel]
  | catching body next ihbody ih =>
    -- A panic of the body ends the visits of the body, and the program goes on.
    refine Chronicled.continued _ ?_ fun ended t' => ih ended _ _ t'
    exact ihbody enclosing host t hholds hdepth
  | onThread name body next ihbody ih =>
    -- The body counts on a thread of its own, and the thread that waits for it keeps its count.
    obtain ⟨t', hbody, hended, -⟩ := ihbody [] (host.started name) t
      (hsame host _ t rfl rfl hholds) CallDepths.current_empty
    refine Chronicled.continued _ ?_ fun ended t' => ih ended _ _ t'
    rw [Host.onThread_apply]
    exact ⟨t', hbody, hsame (body.run (host.started name)).2 _ t' rfl rfl hended, hdepth⟩
  | underSpan span body next ihbody ih =>
    obtain ⟨t', hbody, hended, hcount⟩ := ihbody enclosing (host.spanned span) t
      (hsame host _ t rfl rfl hholds) hdepth
    refine Chronicled.continued _ ?_ fun ended t' => ih ended.1 _ _ t'
    rw [Host.underSpan_apply]
    exact ⟨t', hbody, hsame (body.run (host.spanned span)).2 _ t' rfl rfl hended, hcount⟩

end Chronicle

end Telemetry
