import Telemetry.Proofs.Keyed
import Telemetry.Proofs.Mapper.Writes
import Telemetry.Proofs.Settings.Reading

/-!
# How settings are resolved

The settings of a framework come from its six variables, and the host overrides them. What they are
to be is said setting by setting (`CaptureSettings.Resolved`), and so is what is to be reported
(`CaptureSettings.Reports`).

* `CaptureDraft.Resolved.applyAll`: overriding what was read resolves the settings.
* `CaptureSettings.ofEnvironment_congr`: only the six variables of a framework matter.
* `Bridge.Draft.settings_giveAll`: the place of a framework holds the settings that were given last.
* `Bridge.MapsWith`: a bridge maps the events of a framework to the records that these have under
  given settings, for as long as it is used.
* `Bridge.build_spec`: a bridge maps the events of each framework with the settings that were given
  last, or else with those of the environment.

Main statement: all of this together (`Bridge.settings_resolved`).
-/

namespace Telemetry

open Reporting

/-- The variable of a setting of a framework. -/
def Framework.variableName (framework : Framework) (setting : String) : String :=
  Setting.name framework.instrumentation setting

namespace CaptureSettings

/-! ## What settings are to be -/

/-- The settings that are on or off. -/
inductive Flag where
  | thread
  | marker
  | code
  | mapMessage
  | loggerContext

namespace Flag

/-- The name of the setting. -/
def name : Flag → String
  | thread => Name.thread
  | marker => Name.marker
  | code => Name.code
  | mapMessage => Name.mapMessage
  | loggerContext => Name.loggerContext

/-- Whether the setting is on. -/
def value (draft : CaptureDraft) : Flag → Bool
  | thread => draft.thread
  | marker => draft.marker
  | code => draft.code
  | mapMessage => draft.mapMessage
  | loggerContext => draft.loggerContext

/-- What an override makes of the setting, if it overrides it. -/
def given? : Flag → CaptureOverride → Option Bool
  | thread, .thread on => some on
  | marker, .marker on => some on
  | code, .code on => some on
  | mapMessage, .mapMessage on => some on
  | loggerContext, .loggerContext on => some on
  | _, _ => none

end Flag

/-- The keys of the diagnostic context that an override wants, if it overrides them. -/
def contextKeysGiven? : CaptureOverride → Option (List String)
  | .contextKeys keys => some keys
  | _ => none

/-- What the last override of a setting makes of it, if there is one. -/
def lastGiven? {β : Type} (given? : CaptureOverride → Option β)
    (overrides : List CaptureOverride) : Option β :=
  (overrides.filterMap given?).getLast?

end CaptureSettings

open CaptureSettings

/-- A draft is as the last override of each setting makes it, or else as its variable says, or else
off or empty. -/
structure CaptureDraft.Resolved (env : Environment) (framework : Framework)
    (overrides : List CaptureOverride) (draft : CaptureDraft) : Prop where
  flag_given : ∀ (flag : Flag) (on : Bool), lastGiven? flag.given? overrides = some on →
    flag.value draft = on
  flag_read : ∀ flag : Flag, lastGiven? flag.given? overrides = none →
    (flag.value draft = true ↔ env.SaysBool (framework.variableName flag.name) true)
  contextKeys_given : ∀ keys, lastGiven? contextKeysGiven? overrides = some keys →
    draft.contextKeys = keys
  contextKeys_read : lastGiven? contextKeysGiven? overrides = none →
    ∀ keys, env.SaysList (framework.variableName Name.contextKeys) keys → draft.contextKeys = keys
  contextKeys_unread : lastGiven? contextKeysGiven? overrides = none →
    (∀ keys, ¬ env.SaysList (framework.variableName Name.contextKeys) keys) →
      draft.contextKeys = []

/-- Settings are as the last override of each makes them, or else as its variable says, or else off
or empty. The whole diagnostic context is captured just if the star alone is left in the end. -/
structure CaptureSettings.Resolved (env : Environment) (framework : Framework)
    (overrides : List CaptureOverride) (s : CaptureSettings) : Prop extends
    CaptureDraft.Resolved env framework overrides s.toCaptureDraft where
  capturesAllContext : s.capturesAllContext = true ↔ s.contextKeys = ["*"]

namespace CaptureSettings

/-- What is reported of the variables of a framework: the fault of each that has one, in the order
in which they are read. Only that of the diagnostic context is not to be a truth value. -/
def Reports (env : Environment) (framework : Framework) (faults : List SettingError) : Prop :=
  ∃ found : List (Option SettingError),
    List.Forall₂ (fun setting fault => ∀ error, fault = some error ↔
      env.Fault (framework.variableName setting) (setting ≠ Name.contextKeys) error)
        Name.all found ∧
      faults = found.flatMap Option.toList

/-! ## What they are -/

/-- The settings of a framework: those of the environment, with the overrides of the host. -/
def resolve (env : Environment) (framework : Framework) (overrides : List CaptureOverride) :
    Reporting CaptureSettings := do
  return (← ofEnvironment env framework).applyAll overrides

/-- The settings of a framework have variables of their own. -/
theorem nodup_variableNames (framework : Framework) :
    (Name.all.map framework.variableName).Nodup := by
  have hspelt : (Name.all.map fun setting => setting.toList.map fun c =>
      if c = '.' ∨ c = '-' then '_' else c.toUpper).Nodup := by
    decide
  -- The variables of a framework differ just in how their settings are spelt.
  let first := Setting.namePrefix ++ "_" ++ Setting.spell framework.instrumentation ++ "_"
  have hname : ∀ setting, (framework.variableName setting).toList = first.toList ++
      setting.toList.map fun c => if c = '.' ∨ c = '-' then '_' else c.toUpper := by
    simp [first, Framework.variableName, Setting.name, Setting.spell]
  refine List.Nodup.of_map (fun variableName => variableName.toList.drop first.toList.length) ?_
  simpa only [List.map_map, Function.comp_def, hname, List.drop_left] using hspelt

variable {env env' : Environment} {framework : Framework} {draft : CaptureDraft}
  {overrides : List CaptureOverride}

/-- Reading the variables of a framework never fails. -/
theorem ofEnvironment_spec (env : Environment) (framework : Framework) :
    ∃ draft faults, Yields (ofEnvironment env framework) draft faults ∧
      draft.Resolved env framework [] ∧ Reports env framework faults := by
  obtain ⟨thread, f₁, hthread, hthread', hf₁⟩ :=
    env.readBool_spec (framework.variableName Name.thread)
  obtain ⟨contextKeys, f₂, hcontextKeys, hcontextKeys', hf₂⟩ :=
    env.readList?_spec (framework.variableName Name.contextKeys)
  obtain ⟨marker, f₃, hmarker, hmarker', hf₃⟩ :=
    env.readBool_spec (framework.variableName Name.marker)
  obtain ⟨code, f₄, hcode, hcode', hf₄⟩ :=
    env.readBool_spec (framework.variableName Name.code)
  obtain ⟨mapMessage, f₅, hmapMessage, hmapMessage', hf₅⟩ :=
    env.readBool_spec (framework.variableName Name.mapMessage)
  obtain ⟨loggerContext, f₆, hloggerContext, hloggerContext', hf₆⟩ :=
    env.readBool_spec (framework.variableName Name.loggerContext)
  refine ⟨{ thread, contextKeys := contextKeys.getD [], marker, code, mapMessage, loggerContext },
    [f₁, f₂, f₃, f₄, f₅, f₆].flatMap Option.toList, ?_, ?_, ?_⟩
  · -- The variables are read in the order of the settings.
    exact hthread.bind <| hcontextKeys.bind <| hmarker.bind <| hcode.bind <| hmapMessage.bind <|
      hloggerContext.bind <| yields_pure _
  · refine ⟨nofun, ?_, nofun, ?_, ?_⟩
    · -- Each flag is read from the variable of its own name.
      rintro flag -
      cases flag <;> assumption
    · rintro - keys hkeys
      rw [(hcontextKeys' keys).mpr hkeys]
      rfl
    · rintro - hnone
      rcases contextKeys with _ | keys
      · rfl
      · exact absurd ((hcontextKeys' keys).mp rfl) (hnone keys)
  · refine ⟨_, ?_, rfl⟩
    exact .cons hf₁ (.cons hf₂ (.cons hf₃ (.cons hf₄ (.cons hf₅ (.cons hf₆ .nil)))))

theorem lastGiven?_concat {β : Type} {given? : CaptureOverride → Option β}
    {override : CaptureOverride} :
    lastGiven? given? (overrides ++ [override]) =
      (given? override).or (lastGiven? given? overrides) := by
  rw [lastGiven?, lastGiven?, List.filterMap_append]
  rcases h : given? override with _ | a
  · simp [h]
  · simp [h]

/-- A field that each override replaces or keeps is as the last override that replaces it says. -/
theorem foldl_apply_field {β : Type} (field : CaptureDraft → β)
    (given? : CaptureOverride → Option β)
    (h : ∀ draft override, field (draft.apply override) = (given? override).getD (field draft))
    (draft : CaptureDraft) (overrides : List CaptureOverride) :
    field (overrides.foldl CaptureDraft.apply draft) =
      (lastGiven? given? overrides).getD (field draft) := by
  induction overrides using List.reverseRecOn with
  | nil => rfl
  | append_singleton overrides override ih =>
    rw [List.foldl_append, lastGiven?_concat, Option.getD_or, ← ih]
    exact h _ override

end CaptureSettings

/-- Overriding what was read resolves the settings. -/
theorem CaptureDraft.Resolved.applyAll {env : Environment} {framework : Framework}
    {draft : CaptureDraft} (h : draft.Resolved env framework [])
    (overrides : List CaptureOverride) :
    (draft.applyAll overrides).Resolved env framework overrides := by
  have hflag : ∀ flag : Flag, flag.value (overrides.foldl CaptureDraft.apply draft) =
      (lastGiven? flag.given? overrides).getD (flag.value draft) := fun flag =>
    foldl_apply_field (fun draft => flag.value draft) flag.given?
      (fun draft override => by cases flag <;> cases override <;> rfl) draft overrides
  have hkeys : (overrides.foldl CaptureDraft.apply draft).contextKeys =
      (lastGiven? contextKeysGiven? overrides).getD draft.contextKeys :=
    foldl_apply_field CaptureDraft.contextKeys contextKeysGiven?
      (fun draft override => by cases override <;> rfl) draft overrides
  refine ⟨⟨fun flag on hon => ?_, fun flag hnone => ?_, fun keys hgiven => ?_, fun hnone => ?_,
    fun hnone => ?_⟩, CaptureDraft.wantsAllContext_iff⟩
  · exact (hflag flag).trans (by rw [hon, Option.getD_some])
  · show flag.value (overrides.foldl CaptureDraft.apply draft) = true ↔ _
    rw [hflag, hnone, Option.getD_none]
    exact h.flag_read flag rfl
  · exact hkeys.trans (by rw [hgiven, Option.getD_some])
  · show ∀ keys, _ → (overrides.foldl CaptureDraft.apply draft).contextKeys = keys
    rw [hkeys, hnone, Option.getD_none]
    exact h.contextKeys_read rfl
  · show _ → (overrides.foldl CaptureDraft.apply draft).contextKeys = []
    rw [hkeys, hnone, Option.getD_none]
    exact h.contextKeys_unread rfl

namespace CaptureSettings

variable {env env' : Environment} {framework : Framework}

/-- The settings of a framework are resolved without fail. -/
theorem resolve_spec (env : Environment) (framework : Framework)
    (overrides : List CaptureOverride) :
    ∃ s faults, Yields (resolve env framework overrides) s faults ∧
      s.Resolved env framework overrides ∧ Reports env framework faults := by
  obtain ⟨draft, faults, hyields, hresolved, hreports⟩ := ofEnvironment_spec env framework
  exact ⟨draft.applyAll overrides, faults, hyields.bind_pure (·.applyAll overrides),
    hresolved.applyAll overrides, hreports⟩

/-- Only the six variables of a framework matter to its settings. -/
theorem ofEnvironment_congr (h : ∀ setting ∈ Name.all,
    env.value? (framework.variableName setting) = env'.value? (framework.variableName setting)) :
    ofEnvironment env framework = ofEnvironment env' framework := by
  have hflag : ∀ setting ∈ Name.all,
      env.readBool (framework.variableName setting) false =
        env'.readBool (framework.variableName setting) false :=
    fun setting hsetting => Environment.readWith_congr (h setting hsetting)
  have hkeys : env.readList? (framework.variableName Name.contextKeys) =
      env'.readList? (framework.variableName Name.contextKeys) :=
    Environment.readWith_congr (h _ (by decide))
  simp only [Framework.variableName] at hflag hkeys
  simp only [ofEnvironment, hkeys, hflag Name.thread (by decide), hflag Name.marker (by decide),
    hflag Name.code (by decide), hflag Name.mapMessage (by decide),
    hflag Name.loggerContext (by decide)]

end CaptureSettings

/-! ## The settings of a bridge -/

namespace Bridge

variable {env : Environment} {given : List (Framework × CaptureSettings)} {framework : Framework}
  {sink : Sink}

/-- Frameworks have places of their own. -/
theorem Draft.settings_give (draft : Draft) (framework other : Framework) (s : CaptureSettings) :
    (draft.give framework s).settings.get other.place =
      if other = framework then some s else draft.settings.get other.place := by
  have hplace : (framework.place : Nat) = other.place ↔ other = framework := by
    cases framework <;> cases other <;> decide
  exact (Vector.getElem_set framework.place.isLt other.place.isLt).trans (if_congr hplace rfl rfl)

/-- The place of a framework holds the settings that were given last for it. -/
theorem Draft.settings_giveAll (draft : Draft) (given : List (Framework × CaptureSettings))
    (framework : Framework) :
    (draft.giveAll given).settings.get framework.place =
      (given.reverse.lookup framework).or (draft.settings.get framework.place) := by
  induction given using List.reverseRecOn with
  | nil => rfl
  | append_singleton given last ih =>
    have hlast : draft.giveAll (given ++ [last]) = (draft.giveAll given).give last.1 last.2 :=
      List.foldl_append
    rw [hlast, Draft.settings_give, ih, List.reverse_append, List.reverse_singleton,
      List.singleton_append, List.lookup_cons]
    by_cases heq : framework = last.1
    · rw [if_pos heq, beq_iff_eq.mpr heq, Option.some_or]
    · rw [if_neg heq, beq_eq_false_iff_ne.mpr heq]

/-- The settings of a framework in a bridge, and what is reported of them: the last ones that are
given for the framework, or else those of the environment. -/
inductive Chosen (env : Environment) (given : List (Framework × CaptureSettings))
    (framework : Framework) : CaptureSettings → List SettingError → Prop where
  /-- Settings are given, and the environment is not looked at. -/
  | given {s : CaptureSettings} {before after : List (Framework × CaptureSettings)} :
    given = before ++ (framework, s) :: after → framework ∉ after.map Prod.fst →
      Chosen env given framework s []
  /-- No settings are given. -/
  | read {s : CaptureSettings} {faults : List SettingError} :
    framework ∉ given.map Prod.fst →
      Yields (CaptureSettings.resolve env framework []) s faults →
        Chosen env given framework s faults

variable {s s' : CaptureSettings} {faults faults' : List SettingError}

/-- Settings that are found from behind are chosen. -/
theorem Chosen.eq_of_lookup (h : Chosen env given framework s faults)
    (hlookup : given.reverse.lookup framework = some s') : s = s' := by
  cases h with
  | given hgiven hafter =>
    have hlast := Keyed.lookup_reverse_eq_some_iff.mpr ⟨_, _, hgiven, hafter⟩
    exact Option.some.inj (hlast.symm.trans hlookup)
  | read hunset _ => cases (Keyed.lookup_reverse_eq_none_iff.mpr hunset).symm.trans hlookup

/-- Where no settings are given, those that are read are chosen. -/
theorem Chosen.eq_of_read (h : Chosen env given framework s faults)
    (hunset : framework ∉ given.map Prod.fst)
    (hread : Yields (CaptureSettings.resolve env framework []) s' faults') : s = s' := by
  cases h with
  | given hgiven _ =>
    rw [hgiven, List.map_append, List.map_cons] at hunset
    exact absurd (List.mem_append_right _ List.mem_cons_self) hunset
  | read _ hyields => exact congrArg Prod.fst ((hyields []).symm.trans (hread []))

/-- The mapper of a framework serves it with the settings. Whatever the bridge was used for before,
an event of the framework is mapped to the record that it has under these settings, or ends in the
panic of the first accessor that panics of those that they ask. -/
structure MapsWith (framework : Framework) (s : CaptureSettings) (first : Bridge) : Prop where
  framework_eq : (first.mapper framework).framework = framework
  settings_eq : (first.mapper framework).settings = s
  maps : ∀ {α : Type} (host : Host α) (id : BridgeId), first.HasHistory (host.bridge id) →
    ∀ event : Event, event.framework = framework →
      (mapEvent id event host).1 =
        (event.askedAll s).map fun _ => event.record framework s host.here.info

/-- A faithful bridge stays so, and faithful mappers map to records as their settings say. -/
theorem Faithful.mapsWith {settings : Framework → CaptureSettings} {first : Bridge}
    (h : first.Faithful settings sink) (framework : Framework) :
    first.MapsWith framework (settings framework) where
  framework_eq := (h.mapper framework).serves.1
  settings_eq := (h.mapper framework).serves.2
  maps := by
    rintro α host id hhistory event rfl
    have hlater : (host.bridge id).Faithful settings sink := hhistory.faithful h
    obtain ⟨m, hmap, -⟩ :=
      Mapper.map_collect_eq (hlater.mapper event.framework) host.here.info event
    exact congrArg Prod.fst hmap

/-- Some settings are chosen for each framework, and its mapper is made with them. -/
theorem yields_chosen (env : Environment) (given : List (Framework × CaptureSettings))
    (framework : Framework) :
    ∃ s faults, Chosen env given framework s faults ∧
      Yields (Draft.mapper env framework (given.reverse.lookup framework))
        (.ofSettings framework s) faults := by
  rcases hlookup : given.reverse.lookup framework with _ | s
  · obtain ⟨s, faults, hyields, -, -⟩ := CaptureSettings.resolve_spec env framework []
    have hunset := Keyed.lookup_reverse_eq_none_iff.mp hlookup
    exact ⟨s, faults, .read hunset hyields, hyields.bind_pure (Mapper.ofSettings framework)⟩
  · obtain ⟨before, after, hgiven, hafter⟩ := Keyed.lookup_reverse_eq_some_iff.mp hlookup
    exact ⟨s, [], .given hgiven hafter, yields_pure _⟩

/-- A bridge that is built maps the events of each framework with the settings chosen for it, and
what is reported is reported framework by framework. -/
theorem build_spec (env : Environment) (given : List (Framework × CaptureSettings)) (sink : Sink) :
    ∃ (bridge : Bridge) (settings : Framework → CaptureSettings)
      (faults : Framework → List SettingError),
      Yields (build env given sink) bridge (Framework.all.flatMap faults) ∧
      ∀ framework, Chosen env given framework (settings framework) (faults framework) ∧
        bridge.MapsWith framework (settings framework) := by
  choose settings faults hchosen hyields using yields_chosen env given
  let draft := Draft.giveAll { sink } given
  have hmapper : ∀ framework,
      Yields (Draft.mapper env framework (draft.settings.get framework.place))
        (.ofSettings framework (settings framework)) (faults framework) := by
    intro framework
    have hempty : ({ sink } : Draft).settings.get framework.place = none := by
      cases framework <;> rfl
    rw [Draft.settings_giveAll, hempty, Option.or_none]
    exact hyields framework
  -- The mappers are made in the order of their places, which is that of the frameworks.
  refine ⟨_, settings, faults, (hmapper .javaUtilLogging).bind <| (hmapper .log4j1).bind <|
    (hmapper .log4j2).bind <| (hmapper .logback).bind <| yields_pure _, fun framework =>
      ⟨hchosen framework, Faithful.mapsWith ⟨rfl, ?_, Cache.stores_empty⟩ framework⟩⟩
  rintro (_ | _ | _ | _) <;> exact Mapper.faithful_ofSettings

/-- The six settings of a framework have variables of their own. Whatever these hold, reading them
and overriding what was read never fails: each setting is as its last override makes it, or else as
its own variable says, or else off or empty, and just the variables that cannot be used are
reported, in order. Nothing else in the environment matters, so that both versions of Log4j have the
same settings. A bridge has for each framework a mapper with the settings that were given last, or
else with those of the environment, and maps the events of the framework accordingly. -/
theorem settings_resolved (env : Environment) :
    (∀ framework overrides, (CaptureSettings.Name.all.map framework.variableName).Nodup ∧
      ∃ s faults,
        Yields (CaptureSettings.resolve env framework overrides) s faults ∧
        s.Resolved env framework overrides ∧ CaptureSettings.Reports env framework faults) ∧
    (∀ framework env', (∀ setting ∈ CaptureSettings.Name.all,
        env.value? (framework.variableName setting) =
          env'.value? (framework.variableName setting)) →
      CaptureSettings.resolve env framework = CaptureSettings.resolve env' framework) ∧
    CaptureSettings.resolve env .log4j1 = CaptureSettings.resolve env .log4j2 ∧
    ∀ given sink, ∃ (bridge : Bridge) (settings : Framework → CaptureSettings)
      (faults : Framework → List SettingError),
      Yields (build env given sink) bridge (Framework.all.flatMap faults) ∧
      ∀ framework, Chosen env given framework (settings framework) (faults framework) ∧
        bridge.MapsWith framework (settings framework) := by
  refine ⟨fun framework overrides => ⟨CaptureSettings.nodup_variableNames framework,
    CaptureSettings.resolve_spec env framework overrides⟩, fun framework env' hsame => ?_, rfl,
    build_spec env⟩
  funext overrides
  rw [CaptureSettings.resolve, CaptureSettings.resolve, CaptureSettings.ofEnvironment_congr hsame]

/-- An environment that switches threads on for Log4j and says nothing usable of its markers. -/
def partly : Environment :=
  .ofList [("OTEL_INSTRUMENTATION_LOG4J_APPENDER_EXPERIMENTAL_LOG_ATTRIBUTES", " TRUE ".toUTF8),
    ("OTEL_INSTRUMENTATION_LOG4J_APPENDER_EXPERIMENTAL_CAPTURE_MARKER_ATTRIBUTE", "yes".toUTF8)]

theorem partly_threads :
    partly.SaysBool (Framework.log4j2.variableName CaptureSettings.Flag.thread.name) true := by
  have hname : Framework.log4j2.variableName CaptureSettings.Flag.thread.name =
      "OTEL_INSTRUMENTATION_LOG4J_APPENDER_EXPERIMENTAL_LOG_ATTRIBUTES" := by
    rw [← String.toList_inj]
    simp only [Framework.variableName, Setting.name, Setting.spell, String.toList_append,
      String.toList_map]
    decide
  -- Trimmed and in lower case the value is the word for a setting that is on.
  refine ⟨" TRUE ", ?_, "TRUE".toList, Text.trimmed_iff.mpr (by decide), rfl⟩
  rw [hname, Environment.Holds]
  simp [partly, Environment.ofList]

theorem partly_logback (setting : String) :
    partly.value? (Framework.logback.variableName setting) = none := by
  have hprefix : (Framework.logback.variableName setting).toList.take 26 =
      "OTEL_INSTRUMENTATION_LOGBA".toList := by
    simp [Framework.variableName, Framework.instrumentation, Setting.name, Setting.spell,
      Setting.namePrefix]
  refine Option.map_eq_none_iff.mpr (List.find?_eq_none.mpr fun assignment hassigned => ?_)
  rw [decide_eq_true_iff]
  intro heq
  rw [← heq] at hprefix
  rcases hassigned with _ | ⟨_, _ | ⟨_, ⟨⟩⟩⟩ <;> exact absurd hprefix (by decide)

/-- Settings that are given for Log4j 2, and others that replace them. -/
def replaced : List (Framework × CaptureSettings) :=
  [(.log4j2, .ofDraft { marker := true }), (.log4j2, .ofDraft { contextKeys := ["*"] })]

/-- An event with a marker and a diagnostic context. -/
def visit : Event where
  framework := .log4j2
  context := .ok (some (.ofList [("user", "ada")]))
  marker := .ok (some "AUDIT")

/-- The event is mapped once before, which ends in a panic. -/
def interrupted : Program Activity Wrapper Unit Unit :=
  .catching (.call (.request (.map 0 .log4j2 { visit with timestamp := .error .unreadable }))
    fun _ => .done ()) fun _ => .done ()

theorem partly_resolved :
    (∃ s faults,
      Yields (CaptureSettings.resolve partly .log4j2
        [.code true, .contextKeys ["*"], .code false]) s faults ∧
      s.thread = true ∧ s.code = false ∧ s.capturesAllContext = true) ∧
    CaptureSettings.resolve partly .logback =
      CaptureSettings.resolve ⟨fun _ => none⟩ .logback ∧
    ∃ bridge faults, Yields (build partly replaced {}) bridge faults ∧
      (bridge.mapper .log4j1).settings.thread = true ∧
      (bridge.mapper .log4j2).settings = { contextKeys := ["*"] } ∧
      let host := (interrupted.run { Host.idle () with bridge := fun _ => bridge }).2
      ∃ record, (mapEvent 0 visit host).1 = .ok record ∧
        record.attributes.toList = [("user", .text "ada")] := by
  obtain ⟨hresolved, hcongr, hboth, hbuild⟩ := settings_resolved partly
  refine ⟨?_, hcongr .logback ⟨fun _ => none⟩ fun setting _ => partly_logback setting, ?_⟩
  · obtain ⟨-, s, faults, hyields, hs, -⟩ :=
      hresolved .log4j2 [.code true, .contextKeys ["*"], .code false]
    refine ⟨s, faults, hyields, ?_, ?_, ?_⟩
    · exact (hs.flag_read .thread rfl).mpr partly_threads
    · exact hs.flag_given .code false rfl
    · exact hs.capturesAllContext.mpr (hs.contextKeys_given ["*"] rfl)
  · obtain ⟨bridge, settings, faults, hyields, hbridge⟩ := hbuild replaced {}
    obtain ⟨hchosen₁, hmaps₁⟩ := hbridge .log4j1
    obtain ⟨hchosen₂, hmaps₂⟩ := hbridge .log4j2
    have hlast : settings .log4j2 = { contextKeys := ["*"] } := hchosen₂.eq_of_lookup rfl
    rw [hlast] at hmaps₂
    refine ⟨bridge, _, hyields, ?_, hmaps₂.settings_eq, ?_⟩
    · -- Nothing is given for Log4j 1.2, whose variables are those of Log4j 2.
      obtain ⟨-, s, faults', hread, hs, -⟩ := hresolved .log4j2 []
      rw [← hboth] at hread
      rw [hmaps₁.settings_eq, hchosen₁.eq_of_read (by decide) hread]
      exact (hs.flag_read .thread rfl).mpr partly_threads
    · intro host
      have hhistory : bridge.HasHistory (host.bridge 0) :=
        ⟨Unit, Unit, interrupted, { Host.idle () with bridge := fun _ => bridge }, 0, rfl, rfl⟩
      exact ⟨_, hmaps₂.maps host 0 hhistory visit rfl, rfl⟩

end Bridge

end Telemetry
