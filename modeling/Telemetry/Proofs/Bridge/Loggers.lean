import Telemetry.Proofs.Bridge.Filter
import Telemetry.Proofs.Cache.Recent

/-!
# Which loggers are created

The loggers that a bridge asks its sink for, over calls of its emitter one after another. The sink
may panic at any stage, may keep a state of its own, and may log through the same bridge while it
emits.

* `Bridge.Ledger`: what happened at the emitter, with the names of the loggers that were created and
  of those that were used. In a regular one (`Ledger.Regular`) a logger is asked for only if it is
  not among those used last, and called only if it is.
* `Bridge.Attended`: the bridge remembers the loggers that were used last. This is the invariant,
  kept by every stage of a capture (`stagewise_staysAttended`).
* `Bridge.NextCall`: what the next call in the name of a logger does.

Main statement: `loggers_created_on_demand`.
-/

namespace Telemetry.Bridge

open Attempt Host

/-! ## Ledgers -/

/-- The happening is a call of the logger of a name. -/
inductive LoggerCall (id : BridgeId) (name : String) : Happening → Prop
  | checked (severity : Severity) : LoggerCall id name (.severityChecked id ⟨name⟩ severity name)
  | requested : LoggerCall id name (.recordRequested id ⟨name⟩)

/-- What happened at the emitter of a bridge, and to which loggers. -/
structure Ledger where
  /-- What happened, in order. -/
  added : List Happening := []
  /-- The names of the loggers that the sink created, in order. -/
  created : List String := []
  /-- The names of the loggers that were created or called, in order. -/
  used : List String := []

namespace Ledger

/-- The names of the loggers that were used last, as many as a bridge remembers. -/
def recent (l : Ledger) : List String := (Recency.latest l.used).take Cache.defaultCapacity

/-- Something happened to no logger. -/
def note (happening : Happening) (l : Ledger) : Ledger := { l with added := l.added ++ [happening] }

/-- A logger was called. -/
def call (name : String) (happening : Happening) (l : Ledger) : Ledger :=
  { l with added := l.added ++ [happening], used := l.used ++ [name] }

/-- A logger was created. -/
def create (id : BridgeId) (name : String) (l : Ledger) : Ledger where
  added := l.added ++ [.loggerRequested id name]
  created := l.created ++ [name]
  used := l.used ++ [name]

/-- Since `past`, a logger was asked for only if it was not one of those used last, and called only
if it was, and a record was given only to the logger that had been asked for it. -/
inductive Regular (id : BridgeId) (sink : Sink) (past : List Happening) : Ledger → Prop
  | start : Regular id sink past {}
  | created {l : Ledger} {name : String} (before : l.Regular id sink past)
      (forgotten : name ∉ l.recent) (answer : sink.createLogger (past ++ l.added) name = .ok ()) :
      (l.create id name).Regular id sink past
  | refused {l : Ledger} {name : String} {panic : Panic} (before : l.Regular id sink past)
      (forgotten : name ∉ l.recent)
      (answer : sink.createLogger (past ++ l.added) name = .error panic) :
      (l.note (.loggerRequested id name)).Regular id sink past
  | called {l : Ledger} {name : String} {happening : Happening} (before : l.Regular id sink past)
      (remembered : name ∈ l.recent) (call : LoggerCall id name happening) :
      (l.call name happening).Regular id sink past
  | handed {l : Ledger} {emission : Emission} {answer : Except Panic Unit}
      (before : l.Regular id sink past)
      (requested : l.added.getLast? = some (.recordRequested id emission.logger)) :
      (l.note (.handed id emission answer)).Regular id sink past
  | echoed {l : Ledger} {captured : Bool} (before : l.Regular id sink past) :
      (l.note (.echoed id captured)).Regular id sink past
  | reported {l : Ledger} {diagnostic : Diagnostic} (before : l.Regular id sink past) :
      (l.note (.reported diagnostic)).Regular id sink past

variable {id : BridgeId} {sink : Sink} {past : List Happening} {l : Ledger} {name : String}

theorem mem_used_of_mem_recent (h : name ∈ l.recent) : name ∈ l.used :=
  Recency.mem_latest.mp (List.mem_of_mem_take h)

/-- While there are no more loggers than can be remembered, none that was used is forgotten. -/
theorem mem_recent (h : name ∈ l.used) (hcard : l.used.toFinset.card ≤ Cache.defaultCapacity) :
    name ∈ l.recent := by
  rw [recent, List.take_of_length_le (Recency.length_latest.trans_le hcard)]
  exact Recency.mem_latest.mpr h

/-- A logger is remembered when it was created. -/
theorem mem_recent_create : name ∈ (l.create id name).recent := by
  rw [recent, create, Recency.latest_concat]
  exact List.mem_cons_self

namespace Regular

/-- The loggers that were used are those that were created. -/
theorem mem_used_iff (h : l.Regular id sink past) : name ∈ l.used ↔ name ∈ l.created := by
  induction h with
  | start => rfl
  | created _ _ _ ih => simp only [create, List.mem_append, ih]
  | refused _ _ _ ih => exact ih
  | @called l other _ before remembered _ ih =>
    -- What is called was used before, so that calling it adds no name.
    have hother : other ∈ l.used := mem_used_of_mem_recent remembered
    simp only [call, List.mem_append, List.mem_singleton, ← ih]
    exact or_iff_left_of_imp (· ▸ hother)
  | handed _ _ ih => exact ih
  | echoed _ ih => exact ih
  | reported _ ih => exact ih

theorem toFinset_used (h : l.Regular id sink past) : l.used.toFinset = l.created.toFinset :=
  Finset.ext fun name => by rw [List.mem_toFinset, List.mem_toFinset, h.mem_used_iff]

/-- A logger that was asked for a record had been created. -/
theorem created_of_requested (h : l.Regular id sink past) {logger : Logger}
    (hmem : .recordRequested id logger ∈ l.added) : logger.name ∈ l.created := by
  induction h with
  | start => cases hmem
  | created _ _ _ ih =>
    refine List.mem_append_left _ (ih ?_)
    simpa [create] using hmem
  | @called l name happening before remembered call ih =>
    -- Either it was asked before, or it is the one that is called now.
    rcases List.mem_append.mp hmem with hearlier | hnow
    · exact ih hearlier
    · cases call with
      | checked severity => simp at hnow
      | requested =>
        obtain rfl : logger = ⟨name⟩ := by simpa using hnow
        exact before.mem_used_iff.mp (mem_used_of_mem_recent remembered)
  | refused _ _ _ ih => exact ih (by simpa [note] using hmem)
  | handed _ _ ih => exact ih (by simpa [note] using hmem)
  | echoed _ ih => exact ih (by simpa [note] using hmem)
  | reported _ ih => exact ih (by simpa [note] using hmem)

/-- A record reached a logger that had been created. -/
theorem created_of_handed (h : l.Regular id sink past) {emission : Emission}
    {answer : Except Panic Unit} (hmem : .handed id emission answer ∈ l.added) :
    emission.logger.name ∈ l.created := by
  induction h with
  | start => cases hmem
  | created _ _ _ ih =>
    refine List.mem_append_left _ (ih ?_)
    simpa [create] using hmem
  | called before _ call ih =>
    refine ih ?_
    cases call <;> simpa [Ledger.call] using hmem
  | @handed l emission' answer' before requested ih =>
    rcases List.mem_append.mp hmem with hearlier | hnow
    · exact ih hearlier
    · obtain ⟨rfl, rfl⟩ : emission = emission' ∧ answer = answer' := by simpa using hnow
      exact before.created_of_requested (List.mem_of_getLast? requested)
  | refused _ _ _ ih => exact ih (by simpa [note] using hmem)
  | echoed _ ih => exact ih (by simpa [note] using hmem)
  | reported _ ih => exact ih (by simpa [note] using hmem)

/-- While there are no more loggers than can be remembered, each is created once. -/
theorem nodup_created (h : l.Regular id sink past)
    (hcard : l.created.toFinset.card ≤ Cache.defaultCapacity) : l.created.Nodup := by
  induction h with
  | start => exact List.nodup_nil
  | @created l name before forgotten _ ih =>
    have hearlier : l.created.toFinset.card ≤ Cache.defaultCapacity := by
      refine le_trans (Finset.card_le_card fun other hother => ?_) hcard
      rw [List.mem_toFinset] at hother ⊢
      exact List.mem_append_left _ hother
    -- It was asked for because it was forgotten, so it had never been created.
    have hnew : name ∉ l.created := by
      intro hname
      refine forgotten (mem_recent (before.mem_used_iff.mpr hname) ?_)
      rwa [before.toFinset_used]
    rw [create, List.nodup_append_comm]
    exact List.nodup_cons.mpr ⟨hnew, ih hearlier⟩
  | refused _ _ _ ih => exact ih hcard
  | called _ _ _ ih => exact ih hcard
  | handed _ _ ih => exact ih hcard
  | echoed _ ih => exact ih hcard
  | reported _ ih => exact ih hcard

end Regular

end Ledger

/-! ## Loggers that are remembered -/

/-- The bridge remembers the loggers that were used last since `past`, and all that happened since
then is in the ledger. -/
structure Attended {α : Type} (id : BridgeId) (sink : Sink) (past : List Happening) (l : Ledger)
    (host : Host α) : Prop where
  sink_eq : (host.bridge id).sink = sink
  trace_eq : host.trace = past ++ l.added
  regular : l.Regular id sink past
  loggers : (host.bridge id).loggers.Remembers Logger.mk Cache.defaultCapacity l.used

/-- How the search for the logger of a name ends if those of `recent` are remembered. -/
def search (sink : Sink) (past : List Happening) (recent : List String) (name : String) :
    Except Panic Unit :=
  if name ∈ recent then .ok () else sink.createLogger past name

/-- What the search for the logger of a name leaves behind if those of `recent` are remembered. -/
def searched (id : BridgeId) (recent : List String) (name : String) : List Happening :=
  if name ∈ recent then [] else [.loggerRequested id name]

/-- The search for the logger of a name, if those of `recent` are remembered, finds one and leaves
`host₁` behind, with the logger as the one that is to be called next. -/
structure Found {α : Type} (id : BridgeId) (sink : Sink) (past : List Happening)
    (recent : List String) (name : String) (host host₁ : Host α) : Prop where
  logger : resolveLogger id name host = (.ok ⟨name⟩, host₁)
  trace_eq : host₁.trace = host.trace ++ searched id recent name
  sink_eq : (host₁.bridge id).sink = sink
  ledger : ∃ l : Ledger, l.Regular id sink past ∧ host₁.trace = past ++ l.added ∧
    name ∈ l.recent ∧ (host₁.bridge id).loggers.Remembers Logger.mk Cache.defaultCapacity
      (l.used ++ [name])

variable {α : Type} {id : BridgeId} {sink : Sink} {past : List Happening} {l : Ledger}
  {host : Host α} {name : String} {loggerName : Option String}

/-- A bridge that remembers no logger has used none yet. -/
theorem attended_new (hnew : (host.bridge id).loggers = { capacity := Cache.defaultCapacity }) :
    Attended id (host.bridge id).sink host.trace {} host where
  sink_eq := rfl
  trace_eq := (List.append_nil host.trace).symm
  regular := .start
  loggers := hnew ▸ Cache.remembers_nil

/-- What happens next to no logger is in order if the ledger allows it. -/
theorem Attended.noted (h : Attended id sink past l host) {happening : Happening}
    (hregular : (l.note happening).Regular id sink past) :
    Attended id sink past (l.note happening) (host.noted happening) where
  sink_eq := h.sink_eq
  trace_eq := by
    show host.trace ++ [happening] = past ++ (l.added ++ [happening])
    rw [h.trace_eq, List.append_assoc]
  regular := hregular
  loggers := h.loggers

/-- Nothing depends on what else the bridge remembers. -/
theorem Attended.setBridge (h : Attended id sink past l host) {b : Bridge}
    (hsink : b.sink = (host.bridge id).sink) (hloggers : b.loggers = (host.bridge id).loggers) :
    Attended id sink past l ((bridgePlace id).set b host) where
  sink_eq := by
    rw [bridge_set, if_pos rfl, hsink, h.sink_eq]
  trace_eq := h.trace_eq
  regular := h.regular
  loggers := by
    rw [bridge_set, if_pos rfl, hloggers]
    exact h.loggers

/-- The loggers that are remembered are those that were used last. -/
theorem Attended.get_fst (h : Attended id sink past l host) (name : String) :
    ((host.bridge id).loggers.get name).1 = if name ∈ l.recent then some ⟨name⟩ else none :=
  h.loggers.get_fst

/-- The search finds a logger that is remembered, or else one that the sink creates. -/
theorem Attended.found (h : Attended id sink past l host)
    (hsearch : search sink host.trace l.recent name = .ok ()) :
    ∃ host₁, Found id sink past l.recent name host host₁ := by
  have hget := h.get_fst name
  by_cases hrecent : name ∈ l.recent
  · -- The logger is remembered, and from now on it is the one that was used last.
    rw [if_pos hrecent] at hget
    refine ⟨_, resolveLogger_of_hit hget, ?_, ?_, l, h.regular, h.trace_eq, hrecent, ?_⟩
    · rw [searched, if_pos hrecent, List.append_nil]
      rfl
    · rw [bridge_set, if_pos rfl]
      exact h.sink_eq
    · rw [bridge_set, if_pos rfl]
      exact h.loggers.get hrecent
  · -- The logger is forgotten, so it is the sink that has it, which goes into the ledger.
    rw [if_neg hrecent] at hget
    rw [search, if_neg hrecent, ← h.sink_eq] at hsearch
    have hcreated : (l.create id name).Regular id sink past := by
      refine .created h.regular hrecent ?_
      rwa [← h.trace_eq, ← h.sink_eq]
    have hlogger := resolveLogger_of_miss hget
    simp only [hsearch] at hlogger
    refine ⟨_, hlogger, ?_, ?_, l.create id name, hcreated, ?_, Ledger.mem_recent_create, ?_⟩
    · rw [searched, if_neg hrecent]
      rfl
    · rw [bridge_set, if_pos rfl]
      exact h.sink_eq
    · show host.trace ++ [_] = past ++ (l.added ++ [_])
      rw [h.trace_eq, List.append_assoc]
    · -- A logger that was just created is the one used last, so calling it changes no order.
      rw [bridge_set, if_pos rfl]
      exact (h.loggers.insert name).again

/-- A logger that is refused is not remembered, and nothing else is forgotten for it. -/
theorem Attended.not_found (h : Attended id sink past l host) {panic : Panic}
    (hsearch : search sink host.trace l.recent name = .error panic) :
    resolveLogger id name host = (.error panic, host.noted (.loggerRequested id name)) ∧
      searched id l.recent name = [.loggerRequested id name] ∧
      Attended id sink past (l.note (.loggerRequested id name))
        (host.noted (.loggerRequested id name)) := by
  have hget := h.get_fst name
  rw [search] at hsearch
  split at hsearch
  · cases hsearch
  next hforgotten =>
    rw [if_neg hforgotten] at hget
    have hrefused : (l.note (.loggerRequested id name)).Regular id sink past := by
      rw [h.trace_eq] at hsearch
      exact .refused h.regular hforgotten hsearch
    refine ⟨?_, if_neg hforgotten, h.noted hrefused⟩
    rw [← h.sink_eq] at hsearch
    rw [resolveLogger_of_miss hget]
    simp only [hsearch]

/-- The logger that was found is called. -/
theorem Found.called {recent : List String} {host₁ : Host α}
    (h : Found id sink past recent name host host₁) {happening : Happening}
    (hcall : LoggerCall id name happening) :
    ∃ l : Ledger, Attended id sink past (l.call name happening) (host₁.noted happening) := by
  obtain ⟨l, hregular, htrace, hrecent, hloggers⟩ := h.ledger
  refine ⟨l, h.sink_eq, ?_, .called hregular hrecent hcall, hloggers⟩
  show host₁.trace ++ [happening] = past ++ (l.added ++ [happening])
  rw [htrace, List.append_assoc]

/-! ## Every stage -/

/-- If the bridge remembered the loggers that were used last, it still does. -/
def StaysAttended (id : BridgeId) (host host' : Host α) : Prop :=
  ∀ ⦃sink past l⦄, Attended id sink past l host → ∃ l', Attended id sink past l' host'

theorem staysAttended_accepts (loggerName : Option String) (severity : Option Severity) :
    Keeps (StaysAttended (α := α) id) (accepts id loggerName severity) := by
  intro host sink past l h
  cases severity with
  | none =>
    -- Nobody is asked, so this is no use of any logger.
    exact ⟨l, h⟩
  | some severity =>
    rw [accepts_some_apply]
    cases hsearch : search sink host.trace l.recent (normalizeName loggerName) with
    | ok _ =>
      obtain ⟨host₁, hfound⟩ := h.found hsearch
      obtain ⟨l', hcalled⟩ := hfound.called (.checked severity)
      rw [hfound.logger]
      exact ⟨_, hcalled⟩
    | error panic =>
      obtain ⟨hlogger, -, hrefused⟩ := h.not_found hsearch
      rw [hlogger]
      exact ⟨_, hrefused⟩

theorem staysAttended_handOver (record : Record) (name : String) :
    Keeps (StaysAttended (α := α) id) (handOver id (pure ()) record name) := by
  intro host sink past l h
  cases hsearch : search sink host.trace l.recent name with
  | error panic =>
    obtain ⟨hlogger, -, hrefused⟩ := h.not_found hsearch
    rw [handOver_of_no_logger hlogger]
    exact ⟨_, hrefused⟩
  | ok _ =>
    obtain ⟨host₁, hfound⟩ := h.found hsearch
    obtain ⟨l', hcalled⟩ := hfound.called .requested
    cases hcreate : (host₁.bridge id).sink.createRecord host₁.trace ⟨name⟩ with
    | error panic =>
      rw [handOver_of_no_record hfound.logger hcreate]
      exact ⟨_, hcalled⟩
    | ok _ =>
      rw [handOver_apply hfound.logger hcreate]
      generalize hemission : record.emission _ host₁.clock _ = emission
      generalize (host₁.bridge id).sink.emit _ emission = answer
      -- The record goes to the logger that was asked for it just before.
      have hlast : (l'.call name (.recordRequested id ⟨name⟩)).added.getLast? =
          some (.recordRequested id emission.logger) := by
        rw [← hemission]
        exact List.getLast?_concat
      have hhanded : Ledger.Regular id sink past (.note (.handed id emission answer) _) :=
        .handed hcalled.regular hlast
      cases answer <;> exact ⟨_, hcalled.noted hhanded⟩

theorem stagewise_staysAttended : Stagewise id (StaysAttended (α := α) id) where
  refl _ _ _ l h := ⟨l, h⟩
  trans a b c hab hbc sink past l h := by
    obtain ⟨l', h'⟩ := hab h
    exact hbc h'
  guarded host host' h sink past l hhost := by
    obtain ⟨l', h'⟩ := h ⟨hhost.sink_eq, hhost.trace_eq, hhost.regular, hhost.loggers⟩
    exact ⟨l', h'.sink_eq, h'.trace_eq, h'.regular, h'.loggers⟩
  report diagnostic host sink past l h := ⟨_, h.noted (.reported h.regular)⟩
  echoed captured host sink past l h := ⟨_, h.noted (.echoed h.regular)⟩
  accepts := staysAttended_accepts
  mapEvent event host sink past l h := ⟨l, h.setBridge rfl rfl⟩
  handOver := staysAttended_handOver

/-! ## Calls of the emitter -/

/-- Absent and empty names stand for the root logger. -/
theorem normalizeName_eq :
    normalizeName loggerName = (loggerName.filter (· ≠ "")).getD "ROOT" := by
  cases loggerName with
  | none => rfl
  | some name =>
    rw [normalizeName, Option.filter_some]
    by_cases hname : name = "" <;> simp [hname, rootLoggerName]

/-- A call of the emitter of a bridge. -/
inductive EmitterCall where
  /-- Asks for a severity, if there is one, of the logger of a name. -/
  | accepts (loggerName : Option String) (severity : Option Severity)
  /-- Emits a record through the logger of a name. -/
  | emit (loggerName : Option String) (record : Record)

/-- The host after a call. -/
def EmitterCall.after (id : BridgeId) (host : Host α) : EmitterCall → Host α
  | accepts loggerName severity => (Bridge.accepts id loggerName severity host).2
  | emit loggerName record => (Bridge.emit id record loggerName host).2

/-- The host after calls one after another, each on a thread and at a time. -/
def emitterCalls (id : BridgeId) (host : Host α) (run : List (EmitterCall × Thread × Timestamp)) :
    Host α :=
  run.foldl (fun host (call, thread, now) => call.after id (host.placed thread now)) host

/-- What the next call does that concerns the logger of `name`, given as `loggerName`, if the
loggers of `recent` are remembered. -/
structure NextCall (id : BridgeId) (sink : Sink) (recent : List String) (loggerName : Option String)
    (name : String) (host : Host α) : Prop where
  /-- Without a severity there is nothing to ask for. -/
  unasked : accepts id loggerName none host = (.ok true, host)
  /-- The logger is searched for, and asked for the severity if it was found. -/
  checked : ∀ severity, (accepts id loggerName (some severity) host).2.trace =
    host.trace ++ searched id recent name ++
      match search sink host.trace recent name with
      | .ok () => [.severityChecked id ⟨name⟩ severity name]
      | .error _ => []
  /-- The logger is searched for, asked for a record if it was found, and given the record. -/
  emitted : ∀ record, ∃ answer later, (emit id record loggerName host).2.trace =
    host.trace ++ searched id recent name ++
      match search sink host.trace recent name with
      | .ok () => .recordRequested id ⟨name⟩ ::
        match sink.createRecord (host.trace ++ searched id recent name) ⟨name⟩ with
        | .ok () => .handed id (record.emission ⟨name⟩ host.clock
            (host.activeSpan?.map (·.context))) answer :: later
        | .error panic => [.reported (.emitPanicked name panic.message)]
      | .error panic => [.reported (.emitPanicked name panic.message)]
  /-- If the sink does not create the logger, the same loggers are remembered as before. -/
  refused : ∀ panic, search sink host.trace recent name = .error panic →
    (∀ severity, ((accepts id loggerName (some severity) host).2.bridge id).loggers =
      (host.bridge id).loggers) ∧
    ∀ record, ((emit id record loggerName host).2.bridge id).loggers = (host.bridge id).loggers

/-- A logger that was found is given the record if it creates an empty one. Whatever the sink logs
while it emits comes after that. -/
theorem Found.emitted {recent : List String} {host₁ : Host α}
    (h : Found id sink past recent (normalizeName loggerName) host host₁) (record : Record) :
    ∃ answer later, (emit id record loggerName host).2.trace = host₁.trace ++
      .recordRequested id ⟨normalizeName loggerName⟩ ::
        match sink.createRecord host₁.trace ⟨normalizeName loggerName⟩ with
        | .ok () => .handed id (record.emission ⟨normalizeName loggerName⟩ host₁.clock
            (host₁.activeSpan?.map (·.context))) answer :: later
        | .error panic =>
          [.reported (.emitPanicked (normalizeName loggerName) panic.message)] := by
  rw [emit, emitWith_snd (returns_echo id), ← h.sink_eq]
  cases hcreate : (host₁.bridge id).sink.createRecord host₁.trace ⟨normalizeName loggerName⟩ with
  | error panic =>
    refine ⟨.ok (), [], ?_⟩
    rw [handOver_of_no_record h.logger hcreate]
    exact List.append_assoc _ _ _
  | ok _ =>
    rw [handOver_apply h.logger hcreate]
    generalize (host₁.bridge id).sink.emit _ _ = answer
    generalize hhost₂ : Host.noted (.handed id _ answer) _ = host₂
    have htrace : host₂.trace = host₁.trace ++ [.recordRequested id ⟨normalizeName loggerName⟩,
        .handed id (record.emission ⟨normalizeName loggerName⟩ host₁.clock
          (host₁.activeSpan?.map (·.context))) answer] := by
      rw [← hhost₂]
      exact List.append_assoc _ _ _
    -- Whether the sink took the record or panicked, nothing that was noted is lost after that.
    cases answer with
    | ok _ =>
      obtain ⟨later, hlater⟩ := echo_grownTrace id host₂
      refine ⟨.ok (), later, hlater.symm.trans ?_⟩
      rw [htrace, List.append_assoc]
      rfl
    | error panic =>
      refine ⟨.error panic,
        [.reported (.emitPanicked (normalizeName loggerName) panic.message)], ?_⟩
      show host₂.trace ++ _ = _
      rw [htrace, List.append_assoc]
      rfl

/-- What the next call does follows from the loggers that were used last. -/
theorem Attended.nextCall (h : Attended id sink past l host) (loggerName : Option String) :
    NextCall id sink l.recent loggerName (normalizeName loggerName) host where
  unasked := rfl
  checked severity := by
    rw [accepts_some_apply]
    cases hsearch : search sink host.trace l.recent (normalizeName loggerName) with
    | ok _ =>
      obtain ⟨host₁, hfound⟩ := h.found hsearch
      rw [hfound.logger, ← hfound.trace_eq]
      rfl
    | error panic =>
      obtain ⟨hlogger, hsearched, -⟩ := h.not_found hsearch
      rw [hlogger, hsearched, List.append_nil]
      rfl
  emitted record := by
    cases hsearch : search sink host.trace l.recent (normalizeName loggerName) with
    | ok _ =>
      obtain ⟨host₁, hfound⟩ := h.found hsearch
      have hplace := (resolveLogger_samePlace id (normalizeName loggerName)).of_apply hfound.logger
      rw [← hfound.trace_eq, ← hplace.clock, ← hplace.activeSpan?_eq]
      exact hfound.emitted record
    | error panic =>
      obtain ⟨hlogger, hsearched, -⟩ := h.not_found hsearch
      refine ⟨.ok (), [], ?_⟩
      rw [emit, emitWith_snd (returns_echo id), handOver_of_no_logger hlogger, hsearched]
      rfl
  refused panic hsearch := by
    obtain ⟨hlogger, -, -⟩ := h.not_found hsearch
    refine ⟨fun severity => ?_, fun record => ?_⟩
    · rw [accepts_some_apply, hlogger]
      rfl
    · rw [emit, emitWith_snd (returns_echo id), handOver_of_no_logger hlogger]
      rfl

/-- Where and when a call is made is nothing to what the bridge remembers. -/
theorem Attended.placed (h : Attended id sink past l host) (thread : Thread) (now : Timestamp) :
    Attended id sink past l (host.placed thread now) :=
  ⟨h.sink_eq, h.trace_eq, h.regular, h.loggers⟩

/-- After a call the bridge still remembers the loggers that were used last. -/
theorem Attended.after (h : Attended id sink past l host) (call : EmitterCall) :
    ∃ l', Attended id sink past l' (call.after id host) := by
  cases call with
  | accepts loggerName severity => exact staysAttended_accepts loggerName severity host h
  | emit loggerName record => exact stagewise_staysAttended.emit record loggerName host h

/-- And so it does after any number of calls. -/
theorem Attended.emitterCalls (h : Attended id sink past l host)
    (run : List (EmitterCall × Thread × Timestamp)) :
    ∃ l', Attended id sink past l' (emitterCalls id host run) := by
  induction run generalizing host l with
  | nil => exact ⟨l, h⟩
  | cons first later ih =>
    obtain ⟨call, thread, now⟩ := first
    obtain ⟨l₁, hcall⟩ := (h.placed thread now).after call
    exact ih hcall

/-- Calls of the emitter of a bridge one after another, from when it remembered no logger, on any
threads and at any times, to a sink that may panic at any stage.
* What happened since then is in a regular ledger: also within a call, a logger is asked for only if
  it is not among those used last, and a record goes only to the logger that was just asked for it.
  Just the loggers that the sink created are used.
* The bridge remembers the loggers that were used last, as many as were created, but no more than
  100. As long as there are no more than that, each is created once.
* The next call in the name of a logger, with the root logger for none, asks for the logger just if
  it is not among the 100 used last. Then it checks the severity or gives the record to that
  logger. Without a severity it asks for nothing. If the sink panics instead of creating the logger,
  the same loggers are remembered as before. -/
theorem loggers_created_on_demand (id : BridgeId) (host : Host α)
    (hnew : (host.bridge id).loggers = { capacity := Cache.defaultCapacity })
    (run : List (EmitterCall × Thread × Timestamp)) :
    ∃ l : Ledger, l.Regular id (host.bridge id).sink host.trace ∧
      (emitterCalls id host run).trace = host.trace ++ l.added ∧
      (∀ name, name ∈ l.used ↔ name ∈ l.created) ∧
      (∀ emission answer, .handed id emission answer ∈ l.added →
        emission.logger.name ∈ l.created) ∧
      ((emitterCalls id host run).bridge id).loggers.recency =
        ((Recency.latest l.used).take 100).map (fun name => (name, ⟨name⟩)) ∧
      ((emitterCalls id host run).bridge id).loggers.size = min 100 l.created.toFinset.card ∧
      (l.created.toFinset.card ≤ 100 → l.created.Nodup) ∧
      ∀ loggerName thread now,
        NextCall id (host.bridge id).sink ((Recency.latest l.used).take 100) loggerName
          ((loggerName.filter (· ≠ "")).getD "ROOT")
          ((emitterCalls id host run).placed thread now) := by
  obtain ⟨l, h⟩ := (attended_new hnew).emitterCalls run
  refine ⟨l, h.regular, h.trace_eq, fun _ => h.regular.mem_used_iff,
    fun _ _ => h.regular.created_of_handed, h.loggers.recency_eq, ?_, h.regular.nodup_created,
    fun loggerName thread now => ?_⟩
  · rw [← h.regular.toFinset_used]
    exact h.loggers.size_eq
  · rw [← normalizeName_eq]
    exact (h.placed thread now).nextCall loggerName

/-- The sink does not create the logger `bad`, fails each check, and logs each time it has emitted.
-/
def moody : Sink where
  createLogger _ name := if name = "bad" then .error .unreadable else .ok ()
  accepts _ _ _ _ := .error (.text "offline")
  echo := some fun _ => { framework := .logback, loggerName := .ok (some "audit") }

/-- A check, a record for the logger that is not created, and two others. -/
def moodyRun : List (EmitterCall × Thread × Timestamp) :=
  [(.accepts (some "web") (some ⟨.warn, 0⟩), { info := {} }, ⟨1⟩),
    (.emit (some "bad") {}, { info := {} }, ⟨2⟩), (.emit (some "") {}, { info := {} }, ⟨3⟩),
    (.accepts none none, { info := {} }, ⟨4⟩), (.emit (some "web") {}, { info := {} }, ⟨5⟩)]

theorem moody_created_on_demand :
    ((hostOf moody).bridge 0).loggers = { capacity := Cache.defaultCapacity } ∧
    (emitterCalls 0 (hostOf moody) moodyRun).seen Happening.requestedLogger? =
      ["web", "bad", "ROOT", "audit"] ∧
    (emitterCalls 0 (hostOf moody) moodyRun).handovers.map (·.2.logger.name) =
      ["ROOT", "audit", "web", "audit"] ∧
    ∃ l : Ledger, l.Regular 0 moody [] ∧
      (emitterCalls 0 (hostOf moody) moodyRun).trace = l.added ∧
      l.created.toFinset.card = 3 ∧ l.created.Nodup := by
  obtain ⟨l, hregular, htrace, -, -, -, hsize, hnodup, -⟩ :=
    loggers_created_on_demand 0 (hostOf moody) rfl moodyRun
  have hthree : ((emitterCalls 0 (hostOf moody) moodyRun).bridge 0).loggers.size = 3 := by
    decide +kernel
  refine ⟨rfl, by decide +kernel, by decide +kernel, l, hregular, htrace, ?_, hnodup ?_⟩ <;> omega

end Telemetry.Bridge
