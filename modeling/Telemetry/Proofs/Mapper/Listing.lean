import Telemetry.Proofs.Mapper.Keys

/-!
# How tables are listed

A diagnostic context is captured by listing the table, or by looking up keys that are listed in the
settings, and the properties of the logger context are captured by listing them. In which order does
not show in the values of a record, since no key of a table is written two values.

* `ContextTable.Lawful`: a table lists each key once, with the value that it answers.
* `ContextTable.Reordered`: the same table, listed in another order.
* `Record.SameButOrder`: two records with the same values.

Main statements: a context is captured with the same values whether it is captured as a whole or by
a list that names all of its keys (`Mapper.wildcard_matches_complete_list`), and the order in which
tables are listed does not show in values (`Mapper.listing_order_unseen`).
-/

namespace Telemetry

open Attribute
open AttributeMap (lastWrite?)

/-- Two records that differ in nothing but the order of their attributes. -/
structure Record.SameButOrder (record record' : Record) : Prop where
  body : record.body = record'.body
  timestamp : record.timestamp = record'.timestamp
  severity : record.severity = record'.severity
  severityText : record.severityText = record'.severityText
  traceContext : record.traceContext = record'.traceContext
  attributes : record.attributes.SameButOrder record'.attributes

/-! ## Tables -/

namespace ContextTable

/-- The table lists each of its keys once, with the value that it answers for the key. -/
structure Lawful (table : ContextTable) : Prop where
  distinct : (table.entries.map Prod.fst).Nodup
  agrees : ∀ key value, table.value? key = some value ↔ (key, value) ∈ table.entries

/-- The same table with distinct keys, listed in any two orders. -/
structure Reordered (table table' : ContextTable) : Prop where
  value? : table.value? = table'.value?
  entries : table.entries.Perm table'.entries
  distinct : (table.entries.map Prod.fst).Nodup

/-- The table of a map is lawful. -/
theorem lawful_ofMap (m : Std.TreeMap String String) : (ofMap m).Lawful where
  distinct := AttributeMap.nodup_keys_toList m
  agrees _ _ := Std.TreeMap.mem_toList_iff_getElem?_eq_some.symm

end ContextTable

namespace Mapper

open Event

variable {framework : Framework} {settings settings' : CaptureSettings} {here : ThreadInfo}
  {event event' : Event} {form : String → String}

/-! ## What is wanted of a table -/

/-- With the star, all entries of a table are wanted. -/
theorem wantedEntries_star (h : settings.contextKeys = ["*"]) (table : ContextTable) :
    wantedEntries settings (some table) = table.entries := by
  have hall : settings.capturesAllContext = true := settings.capturesAllContext_iff.mpr h
  rw [wantedEntries, if_pos hall]
  rfl

/-- Of a lawful table, a list of keys wants the entries that the list names. -/
theorem mem_wantedEntries_iff {table : ContextTable} (htable : table.Lawful)
    (hlist : settings.contextKeys ≠ ["*"]) {entry : String × String} :
    entry ∈ wantedEntries settings (some table) ↔
      entry.1 ∈ settings.contextKeys ∧ entry ∈ table.entries := by
  rw [wantedEntries, if_neg (mt settings.capturesAllContext_iff.mp hlist), List.mem_filterMap]
  constructor
  · rintro ⟨key, hkey, hentry⟩
    obtain ⟨value, hvalue, rfl⟩ := Option.map_eq_some_iff.mp hentry
    exact ⟨hkey, (htable.agrees key value).mp hvalue⟩
  · rintro ⟨hkey, hentry⟩
    refine ⟨entry.1, hkey, Option.map_eq_some_iff.mpr ⟨entry.2, ?_, rfl⟩⟩
    exact (htable.agrees entry.1 entry.2).mpr hentry

/-- A list that names all keys of a table wants the entries that the star wants. -/
theorem mem_wantedEntries_of_complete (settings : CaptureSettings) {table : ContextTable}
    (htable : table.Lawful) {keys : List String}
    (hkeys : ∀ entry ∈ table.entries, entry.1 ∈ keys) (entry : String × String) :
    entry ∈ table.entries ↔
      entry ∈ wantedEntries (.ofDraft { settings with contextKeys := keys }) (some table) := by
  by_cases hstar : keys = ["*"]
  · -- The list is the star itself.
    rw [wantedEntries_star hstar]
  · rw [mem_wantedEntries_iff htable hstar]
    exact ⟨fun hentry => ⟨hkeys entry hentry, hentry⟩, And.right⟩

/-- The star and a list that names all keys write the same values. -/
theorem lastWrite?_contextWrites_complete (hform : Function.Injective form)
    {table : Option ContextTable} {keys : List String}
    (htable : ∀ given, table = some given →
      given.Lawful ∧ ∀ entry ∈ given.entries, entry.1 ∈ keys) (key : String) :
    lastWrite? (textWrites form
        (wantedEntries (.ofDraft { settings with contextKeys := ["*"] }) table)) key =
      lastWrite? (textWrites form
        (wantedEntries (.ofDraft { settings with contextKeys := keys }) table)) key := by
  rcases table with _ | table
  · rw [wantedEntries_none, wantedEntries_none]
  · obtain ⟨hlawful, hkeys⟩ := htable table rfl
    rw [wantedEntries_star rfl]
    exact lastWrite?_textWrites_congr hform (AttributeMap.consistent_of_nodup hlawful.distinct)
      (mem_wantedEntries_of_complete settings hlawful hkeys) key

/-- Tables that differ in nothing but their order write the same values. -/
theorem lastWrite?_contextWrites_reordered (settings : CaptureSettings)
    (hform : Function.Injective form) {table table' : Option ContextTable}
    (h : Option.Rel ContextTable.Reordered table table') (key : String) :
    lastWrite? (textWrites form (wantedEntries settings table)) key =
      lastWrite? (textWrites form (wantedEntries settings table')) key := by
  cases h with
  | none => rfl
  | @some table table' h =>
    simp only [wantedEntries, Option.map_some, Option.getD_some, Option.bind_some]
    split_ifs
    · exact lastWrite?_textWrites_congr hform (AttributeMap.consistent_of_nodup h.distinct)
        (fun _ => h.entries.mem_iff) key
    · -- A list of keys is looked up, whatever order the table has.
      rw [h.value?]

theorem lastWrite?_propertyWrites_reordered (wanted : Bool) {table table' : Option ContextTable}
    (h : Option.Rel ContextTable.Reordered table table') (key : String) :
    lastWrite? (if wanted then table.elim [] fun table => textWrites id table.entries else []) key =
      lastWrite?
        (if wanted then table'.elim [] fun table => textWrites id table.entries else []) key := by
  split_ifs
  · cases h with
    | none => rfl
    | some h =>
      exact lastWrite?_textWrites_congr Function.injective_id
        (AttributeMap.consistent_of_nodup h.distinct) (fun _ => h.entries.mem_iff) key
  · rfl

/-! ## Records -/

theorem alike_map_const {α β : Type} {R : β → β → Prop} (ended : Except Panic α) {b b' : β}
    (h : R b b') : Alike R (ended.map fun _ => b) (ended.map fun _ => b') := by
  cases ended with
  | error panic => exact .panic panic
  | ok => exact .answer h

theorem ask_eq_of_alike {α : Type} {R : α → α → Prop} {accessor accessor' : Except Panic α}
    (wanted : Bool) (h : Alike R accessor accessor') :
    ask wanted accessor = ask wanted accessor' := by
  cases h <;> cases wanted <;> rfl

theorem rel_answer {α : Type} {R : α → α → Prop} {accessor accessor' : Except Panic (Option α)}
    (h : Alike (Option.Rel R) accessor accessor') :
    Option.Rel R (answer accessor) (answer accessor') := by
  cases h with
  | answer h => rwa [answer_ok, answer_ok]
  | panic panic => exact .none

/-- Events with the same message, level and time, of which the same panics are met and the same
values are written, are collected and mapped to the same values. -/
theorem alike_of_blocks (here : ThreadInfo) {m m' : Mapper}
    (hm : m.Faithful framework settings) (hm' : m'.Faithful framework settings')
    (hasked : event.asked settings = event'.asked settings')
    (hmessage : event.message = event'.message) (hlevel : event.level = event'.level)
    (htimestamp : event.timestamp = event'.timestamp)
    (hblocks : List.Forall₂
      (fun block block' => ∀ key, lastWrite? block key = lastWrite? block' key)
      (event.blocks framework settings here) (event'.blocks framework settings' here)) :
    Alike AttributeMap.SameButOrder (collect here event m).1 (collect here event' m').1 ∧
      Alike Record.SameButOrder (Mapper.map here event m).1 (Mapper.map here event' m').1 := by
  obtain ⟨n, hmap, hcollect⟩ := map_collect_eq hm here event
  obtain ⟨n', hmap', hcollect'⟩ := map_collect_eq hm' here event'
  have haskedAll : event.askedAll settings = event'.askedAll settings' := by
    rw [askedAll, askedAll, hasked, hlevel, htimestamp]
  have hrecord : (event.record framework settings here).SameButOrder
      (event'.record framework settings' here) :=
    { body := by rw [record, record, hmessage]
      timestamp := by rw [record, record, htimestamp]
      severity := by rw [record, record, hlevel]
      severityText := by rw [record, record, hlevel]
      traceContext := rfl
      attributes := AttributeMap.sameButOrder_blocks hblocks }
  rw [hmap, hmap', hcollect, hcollect', hasked, haskedAll]
  exact ⟨alike_map_const _ hrecord.attributes, alike_map_const _ hrecord⟩

/-- With nothing else to capture, the writes of an event are those of its diagnostic context. -/
theorem flatten_blocks_of_context {keys : List String} {table : ContextTable}
    (hthrowable : event.throwable = .ok none) (hcontext : event.context = .ok (some table)) :
    (event.blocks framework { contextKeys := keys } here).flatten =
      textWrites (KeyCache.form framework.contextNamespace)
        (wantedEntries { contextKeys := keys } (some table)) := by
  have hnothing : messageWrites framework { contextKeys := keys } (answer event.message) = [] := by
    rcases answer event.message with _ | (text | message) <;> rfl
  simp only [blocks, hnothing, hthrowable, hcontext, answer_ok]
  simp

/-- With nothing else to capture, a collection ends in what the diagnostic context leaves, unless
the message panics. -/
theorem collect_of_context (here : ThreadInfo) {m : Mapper} {keys : List String}
    {table : ContextTable} {message : Option Message}
    (hm : m.Faithful framework { contextKeys := keys })
    (hmessage : event.message = .ok message) (hthrowable : event.throwable = .ok none)
    (hcontext : event.context = .ok (some table)) :
    (collect here event m).1 = .ok (AttributeMap.empty.insertMany
      (textWrites (KeyCache.form framework.contextNamespace)
        (wantedEntries { contextKeys := keys } (some table)))) := by
  obtain ⟨m', -, hcollect⟩ := map_collect_eq hm here event
  have hasked : event.asked { contextKeys := keys } = .ok () := by
    rw [asked, askedCommon, ask_ok hmessage, ask_ok hthrowable, ask_ok hcontext]
    rfl
  rw [hcollect, hasked, record, flatten_blocks_of_context hthrowable hcontext]
  rfl

/-- With nothing else to capture, there is just one attribute for each entry of the diagnostic
context, be it captured under the star or by a list that names all of its keys. -/
theorem collect_each_entry (here : ThreadInfo) {m m' : Mapper} {keys : List String}
    {table : ContextTable} {message : Option Message}
    (hm : m.Faithful framework { contextKeys := ["*"] })
    (hm' : m'.Faithful framework { contextKeys := keys })
    (htable : table.Lawful) (hkeys : ∀ entry ∈ table.entries, entry.1 ∈ keys)
    (hmessage : event.message = .ok message) (hthrowable : event.throwable = .ok none)
    (hcontext : event.context = .ok (some table)) :
    ∃ attributes attributes',
      (collect here event m).1 = .ok attributes ∧ (collect here event m').1 = .ok attributes' ∧
      let written := table.entries.map fun entry =>
        (KeyCache.form framework.contextNamespace entry.1, Value.text entry.2)
      attributes.toList = written ∧ attributes'.toList.Perm written := by
  have hform := KeyCache.form_injective framework.contextNamespace
  have hleft := collect_of_context here hm hmessage hthrowable hcontext
  have hright := collect_of_context here hm' hmessage hthrowable hcontext
  rw [wantedEntries_star rfl] at hleft
  -- Listed or looked up, the entries are the same, and their keys stay distinct.
  have hwritten := AttributeMap.toList_insertMany_of_nodup
    (nodup_keys_textWrites hform htable.distinct)
  have hsame := AttributeMap.sameButOrder_insertMany
    (lastWrite?_textWrites_congr hform (AttributeMap.consistent_of_nodup htable.distinct)
      (mem_wantedEntries_of_complete {} htable hkeys))
  exact ⟨_, _, hleft, hright, hwritten, hsame.toList.symm.trans (.of_eq hwritten)⟩

/-- A diagnostic context is captured in the same way whether it is listed, under the star, or looked
up key by key in a list that names all of its keys, in any order, with repetitions and other names.
Attributes and records have the same values, or the same panic ends both. With nothing else to
capture, there is just one attribute for each entry of the table. -/
theorem wildcard_matches_complete_list (settings : CaptureSettings) (uses uses' : List Use)
    (here : ThreadInfo) {keys : List String}
    (hcontext : ∀ table, event.context = .ok (some table) →
      table.Lawful ∧ ∀ entry ∈ table.entries, entry.1 ∈ keys) :
    let all := (ofSettings framework (.ofDraft { settings with contextKeys := ["*"] })).used uses
    let listed := (ofSettings framework (.ofDraft { settings with contextKeys := keys })).used uses'
    Alike AttributeMap.SameButOrder (collect here event all).1 (collect here event listed).1 ∧
    Alike Record.SameButOrder (Mapper.map here event all).1 (Mapper.map here event listed).1 ∧
    ((∀ panic, ¬ event.Raises panic) →
      ∃ record m', Mapper.map here event all = (.ok record, m') ∧
        collect here event all = (.ok record.attributes, m')) ∧
    ∀ table message, settings = {} → event.message = .ok message →
      event.throwable = .ok none → event.context = .ok (some table) →
      ∃ attributes attributes',
        (collect here event all).1 = .ok attributes ∧
        (collect here event listed).1 = .ok attributes' ∧
        let written := table.entries.map fun entry =>
          (KeyCache.form framework.contextNamespace entry.1, Value.text entry.2)
        attributes.toList = written ∧ attributes'.toList.Perm written := by
  intro all listed
  have hform := KeyCache.form_injective framework.contextNamespace
  have hall : all.Faithful framework (.ofDraft { settings with contextKeys := ["*"] }) :=
    faithful_ofSettings.used uses
  have hlisted : listed.Faithful framework (.ofDraft { settings with contextKeys := keys }) :=
    faithful_ofSettings.used uses'
  -- Only the block of the diagnostic context depends on the list of keys.
  have hwrites : ∀ key, lastWrite? (textWrites (KeyCache.form framework.contextNamespace)
      (wantedEntries (.ofDraft { settings with contextKeys := ["*"] })
        (answer event.context))) key =
      lastWrite? (textWrites (KeyCache.form framework.contextNamespace)
        (wantedEntries (.ofDraft { settings with contextKeys := keys })
          (answer event.context))) key :=
    lastWrite?_contextWrites_complete hform fun table htable =>
      hcontext table (answer_eq_some_iff.mp htable)
  obtain ⟨hcollect, hmap⟩ := alike_of_blocks here hall hlisted rfl rfl rfl rfl
    (.cons (fun _ => rfl) <| .cons (fun _ => rfl) <| .cons hwrites <| .cons (fun _ => rfl) <|
      .cons (fun _ => rfl) <| .cons (fun _ => rfl) <| .cons (fun _ => rfl) .nil)
  refine ⟨hcollect, hmap, returns_of_not_raises hall here, ?_⟩
  rintro table message rfl hmessage hthrowable htable
  obtain ⟨hlawful, hkeys⟩ := hcontext table htable
  exact collect_each_entry here hall hlisted hlawful hkeys hmessage hthrowable htable

/-- A diagnostic context with the key of an exception's type, and with a star for a key. -/
def starred : ContextTable := .ofList [("user", "ada"), ("exception.type", "forged"), ("*", "all")]

theorem starred_matches :
    starred.Lawful ∧
    (∃ attributes attributes',
      (collect {} { framework := .log4j2, context := .ok (some starred) }
        (ofSettings .log4j2 { contextKeys := ["*"] })).1 = .ok attributes ∧
      (collect {} { framework := .log4j2, context := .ok (some starred) }
        (ofSettings .log4j2 { contextKeys := ["user", "*", "absent", "exception.type", "*"] })).1 =
          .ok attributes' ∧
      attributes.toList =
        [("*", .text "all"), ("exception.type", .text "forged"), ("user", .text "ada")] ∧
      attributes'.toList.Perm
        [("*", .text "all"), ("exception.type", .text "forged"), ("user", .text "ada")]) ∧
    ∀ throwable, Alike AttributeMap.SameButOrder
      (collect {} { framework := .log4j2, throwable, context := .ok (some starred) }
        (ofSettings .log4j2 { contextKeys := ["*"] })).1
      (collect {} { framework := .log4j2, throwable, context := .ok (some starred) }
        (ofSettings .log4j2 { contextKeys := ["user", "*", "exception.type"] })).1 := by
  have hlawful : starred.Lawful := ContextTable.lawful_ofMap _
  have hentries : starred.entries =
      [("*", "all"), ("exception.type", "forged"), ("user", "ada")] := rfl
  have hcontext : ∀ keys : List String, "*" ∈ keys → "exception.type" ∈ keys → "user" ∈ keys →
      ∀ table, Except.ok (some starred) = (Except.ok (some table) : Except Panic _) →
        table.Lawful ∧ ∀ entry ∈ table.entries, entry.1 ∈ keys := by
    rintro keys hstar htype huser _ ⟨⟩
    refine ⟨hlawful, ?_⟩
    simp [hentries, hstar, htype, huser]
  refine ⟨hlawful, ?_, ?_⟩
  · exact (wildcard_matches_complete_list {} [] [] {}
      (hcontext _ (by decide) (by decide) (by decide))).2.2.2 starred none rfl rfl rfl rfl
  · exact fun throwable => (wildcard_matches_complete_list {} [] [] {}
      (hcontext _ (by decide) (by decide) (by decide))).1

/-- The order in which the diagnostic context and the properties of the logger context are listed
does not show in the values of a record, whatever keys of theirs collide with each other's or with
those of other data: in both orders an event is collected and mapped to the same values, or ends in
the same panic. -/
theorem listing_order_unseen (framework : Framework) (settings : CaptureSettings)
    (uses uses' : List Use) (here : ThreadInfo) (event : Event)
    {context properties : Except Panic (Option ContextTable)}
    (hcontext : Alike (Option.Rel ContextTable.Reordered) event.context context)
    (hproperties : Alike (Option.Rel ContextTable.Reordered) event.properties properties) :
    let m := (ofSettings framework settings).used uses
    let m' := (ofSettings framework settings).used uses'
    let event' := { event with context, properties }
    Alike AttributeMap.SameButOrder (collect here event m).1 (collect here event' m').1 ∧
    Alike Record.SameButOrder (Mapper.map here event m).1 (Mapper.map here event' m').1 ∧
    ((∀ panic, ¬ event.Raises panic) →
      ∃ record m', Mapper.map here event m = (.ok record, m') ∧
        collect here event m = (.ok record.attributes, m')) := by
  intro m m' event'
  have hm : m.Faithful framework settings := faithful_ofSettings.used uses
  have hm' : m'.Faithful framework settings := faithful_ofSettings.used uses'
  have hasked : event.asked settings = event'.asked settings := by
    rw [asked, asked, askedCommon, askedCommon, ask_eq_of_alike true hcontext,
      ask_eq_of_alike settings.loggerContext hproperties]
  have hcontextWrites := lastWrite?_contextWrites_reordered settings
    (KeyCache.form_injective framework.contextNamespace) (rel_answer hcontext)
  have hpropertyWrites :=
    lastWrite?_propertyWrites_reordered settings.loggerContext (rel_answer hproperties)
  obtain ⟨hcollect, hmap⟩ := alike_of_blocks here hm hm' hasked rfl rfl rfl
    (.cons (fun _ => rfl) <| .cons (fun _ => rfl) <| .cons hcontextWrites <|
      .cons (fun _ => rfl) <| .cons (fun _ => rfl) <| .cons (fun _ => rfl) <|
      .cons hpropertyWrites .nil)
  exact ⟨hcollect, hmap, returns_of_not_raises hm here⟩

/-- An event of which the diagnostic context and the properties have keys in common. -/
def shuffled : Event where
  framework := .log4j2
  context := .ok (some starred)
  properties := .ok (some (.ofList [("user", "bob"), ("zone", "eu")]))

/-- The same table, listed from the end. -/
def backwards (table : ContextTable) : ContextTable :=
  { table with entries := table.entries.reverse }

theorem shuffled_unseen :
    starred.Reordered (backwards starred) ∧
    ∃ attributes attributes',
      (collect {} shuffled (ofSettings .log4j2 { contextKeys := ["*"], loggerContext := true })).1 =
        .ok attributes ∧
      (collect {} { shuffled with
        context := .ok (some (backwards starred))
        properties := .ok (some (backwards (.ofList [("user", "bob"), ("zone", "eu")]))) }
          (ofSettings .log4j2 { contextKeys := ["*"], loggerContext := true })).1 =
        .ok attributes' ∧
      attributes.toList.map Prod.fst = ["*", "exception.type", "user", "zone"] ∧
      attributes'.toList.map Prod.fst = ["user", "exception.type", "*", "zone"] ∧
      attributes.SameButOrder attributes' := by
  have hreordered : ∀ pairs, (ContextTable.ofList pairs).Reordered
      (backwards (.ofList pairs)) := fun pairs =>
    ⟨rfl, (List.reverse_perm _).symm, (ContextTable.lawful_ofMap _).distinct⟩
  have hsame := (listing_order_unseen .log4j2
    { contextKeys := ["*"], loggerContext := true } [] [] {} shuffled
    (.answer (.some (hreordered _))) (.answer (.some (hreordered _)))).1
  refine ⟨hreordered _, _, _, rfl, rfl, rfl, rfl, ?_⟩
  cases hsame with
  | answer h => exact h

end Mapper

end Telemetry
