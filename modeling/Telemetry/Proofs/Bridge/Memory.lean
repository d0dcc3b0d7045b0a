import Telemetry.Bridge.Basic
import Telemetry.Proofs.Mapper.Memory

/-!
# What bridges remember

A bridge remembers attribute keys as it would form them, and the logger of a name as the sink
created it (`Bridge.Faithful`). It begins so (`Bridge.faithful_build`), and what instrumentations do
to a bridge keeps it so (`Bridge.Evolves`).
-/

namespace Telemetry

/-- What the sink does does not depend on what happened before. -/
def Sink.Stateless (sink : Sink) : Prop :=
  ∀ past past',
    sink.createLogger past = sink.createLogger past' ∧
    sink.accepts past = sink.accepts past' ∧
    sink.createRecord past = sink.createRecord past' ∧
    sink.emit past = sink.emit past'

theorem Sink.Stateless.createLogger_eq {sink : Sink} (h : sink.Stateless) (name : String)
    (past past' : List Happening) : sink.createLogger past name = sink.createLogger past' name := by
  rw [(h past past').1]

namespace Bridge

variable {settings : Framework → CaptureSettings} {sink : Sink} {b : Bridge}

/-- A bridge with the settings to the sink that remembers keys as it would form them, and loggers as
the sink created them. -/
structure Faithful (settings : Framework → CaptureSettings) (sink : Sink) (b : Bridge) : Prop where
  sink_eq : b.sink = sink
  mapper : ∀ framework, (b.mapper framework).Faithful framework (settings framework)
  loggers : b.loggers.Stores fun name logger =>
    logger = ⟨name⟩ ∧ ∃ past, sink.createLogger past name = .ok ()

/-- The settings of a bridge that is built from the environment and what is given. -/
def settingsOf (env : Environment) (given : List (Framework × CaptureSettings))
    (framework : Framework) : CaptureSettings :=
  ((build env given {} []).1.mapper framework).settings

/-- Giving settings does not touch the sink, nor does the sink matter to it. -/
theorem Draft.giveAll_sink (draft : Draft) (given : List (Framework × CaptureSettings))
    (sink : Sink) :
    Draft.giveAll { draft with sink } given = { Draft.giveAll draft given with sink } := by
  induction given generalizing draft with
  | nil => rfl
  | cons entry given ih => exact ih (draft.give entry.1 entry.2)

theorem build_mapper (env : Environment) (given : List (Framework × CaptureSettings)) (sink : Sink)
    (framework : Framework) : (build env given sink []).1.mapper framework =
      .ofSettings framework (settingsOf env given framework) := by
  rw [settingsOf, build, Draft.giveAll_sink { sink := {} } given sink, build]
  cases framework <;> rfl

/-- A new bridge remembers nothing. -/
theorem faithful_build (env : Environment) (given : List (Framework × CaptureSettings))
    (sink : Sink) : (build env given sink []).1.Faithful (settingsOf env given) sink where
  sink_eq := by
    rw [build, Draft.giveAll_sink { sink := {} } given sink]
    rfl
  mapper framework := by
    rw [build_mapper]
    exact Mapper.faithful_ofSettings
  loggers := Cache.stores_empty

/-- The bridge has the same sink before and after, and what it remembers is faithful afterwards if
it was before. -/
structure Evolves (b b' : Bridge) : Prop where
  sink_eq : b'.sink = b.sink
  faithful : ∀ {settings sink}, b.Faithful settings sink → b'.Faithful settings sink

theorem evolves_refl (b : Bridge) : b.Evolves b := ⟨rfl, fun h => h⟩

theorem Evolves.trans {b b' b'' : Bridge} (h : b.Evolves b') (h' : b'.Evolves b'') :
    b.Evolves b'' :=
  ⟨h'.sink_eq.trans h.sink_eq, fun hb => h'.faithful (h.faithful hb)⟩

/-- Looking up a logger changes only how long it is remembered. -/
theorem evolves_getLogger (name : String) :
    b.Evolves (loggersPlace.set (b.loggers.get name).2 b) :=
  ⟨rfl, fun h => { h with loggers := h.loggers.get }⟩

/-- A logger that the sink created may be remembered. -/
theorem evolves_insertLogger {past : List Happening} {name : String}
    (hcreated : b.sink.createLogger past name = .ok ()) :
    b.Evolves (loggersPlace.set (b.loggers.insert name ⟨name⟩).2 b) := by
  refine ⟨rfl, fun h => { h with loggers := h.loggers.insert ⟨rfl, past, ?_⟩ }⟩
  rw [← h.sink_eq]
  exact hcreated

/-- A mapper may be overwritten with a faithful one. -/
theorem Faithful.setMapper (h : b.Faithful settings sink) {framework : Framework} {m : Mapper}
    (hm : m.Faithful framework (settings framework)) :
    ((mapperPlace framework).set m b).Faithful settings sink := by
  refine { h with mapper := fun other => ?_ }
  show (if other = framework then m else b.mapper other).Faithful other (settings other)
  split
  next heq => exact heq ▸ hm
  next => exact h.mapper other

/-- A mapper of the bridge may map and collect. -/
theorem evolves_setMapper {framework : Framework} {m : Mapper}
    (hm : ∀ settings, (b.mapper framework).Faithful framework settings →
      m.Faithful framework settings) :
    b.Evolves ((mapperPlace framework).set m b) :=
  ⟨rfl, fun h => h.setMapper (hm _ (h.mapper framework))⟩

end Bridge

end Telemetry
