import Mathlib.Data.List.Forall2
import Telemetry.Proofs.Text.Trimmed
import Telemetry.Settings.Environment

/-!
# What a variable says

How the value of a variable reads is said without the functions that read it, so that what these
answer can be compared with it.

* `Setting.SaysBool`, `Setting.SaysList`: the truth value and the list that a text says
  (`Setting.parseBool_cases`, `Setting.saysList_iff`).
* `Environment.Fault`: what is wrong with the value of a variable.
* `Reporting.Yields`: what a computation yields and reports, whatever was reported before.

Main statements: reading a variable never fails, gives what the variable says or else the default,
and reports just what is wrong with it (`Environment.readBool_spec`, `Environment.readList?_spec`).
-/

namespace Telemetry

/-! ## Values -/

namespace Setting

variable {key value : String} {on : Bool} {entries : List String}

/-- A text says a truth value: with blanks around it, and in any case. -/
def SaysBool (value : String) (on : Bool) : Prop :=
  ∃ word, Text.Trimmed value.toList word ∧ word.map Char.toLower = (toString on).toList

/-- A text says a list: between its commas, with blanks around them, it has the entries, and besides
at most nothing. -/
def SaysList (value : String) (entries : List String) : Prop :=
  ∃ parts words : List (List Char), parts ≠ [] ∧ (∀ part ∈ parts, ',' ∉ part) ∧
    value.toList = [','].intercalate parts ∧ List.Forall₂ Text.Trimmed parts words ∧
      entries = (words.filter (· ≠ [])).map String.ofList

theorem saysBool_iff : SaysBool value on ↔
    (Text.trim value.toList).map Char.toLower = (toString on).toList := by
  constructor
  · rintro ⟨word, hword, heq⟩
    rwa [← hword.eq_trim]
  · exact fun h => ⟨_, Text.trimmed_trim _, h⟩

theorem SaysBool.unique {other : Bool} (h : SaysBool value on) (h' : SaysBool value other) :
    on = other := by
  rw [saysBool_iff] at h h'
  have heq : (toString on).toList = (toString other).toList := h.symm.trans h'
  revert heq
  cases on <;> cases other <;> decide

/-- A text in lower case, compared with another text in any case. -/
theorem sameIgnoringCase_iff {cs ds : List Char} (hlower : ds.map Char.toLower = ds) :
    sameIgnoringCase cs ds = true ↔ cs.map Char.toLower = ds := by
  rw [sameIgnoringCase, hlower, decide_eq_true_iff]

/-- Reading a truth value gives what the text says, and otherwise quotes the text. -/
theorem parseBool_cases (key value : String) :
    (∃ on, SaysBool value on ∧ parseBool key value = .ok on) ∨
      (∀ on, ¬ SaysBool value on) ∧ parseBool key value =
        .error (.invalidBoolean key (String.ofList (Text.trim value.toList))) := by
  have htrue : sameIgnoringCase (Text.trim value.toList) "true".toList = true ↔
      SaysBool value true := by
    rw [saysBool_iff]
    exact sameIgnoringCase_iff (by decide)
  have hfalse : sameIgnoringCase (Text.trim value.toList) "false".toList = true ↔
      SaysBool value false := by
    rw [saysBool_iff]
    exact sameIgnoringCase_iff (by decide)
  rw [parseBool]
  split_ifs with hsame hsame'
  · exact .inl ⟨true, htrue.mp hsame, rfl⟩
  · exact .inl ⟨false, hfalse.mp hsame', rfl⟩
  · refine .inr ⟨fun on => ?_, rfl⟩
    cases on
    · exact mt hfalse.mpr hsame'
    · exact mt htrue.mpr hsame

theorem splitAtCommas_eq (cs : List Char) : splitAtCommas cs = List.splitOn ',' cs := by
  fun_induction splitAtCommas cs with
  | case1 => rfl
  | case2 rest ih => rw [List.splitOn_cons_eq_if_modifyHead, if_pos (by decide), ih]
  | case3 c rest hc part parts hrest ih =>
    rw [List.splitOn_cons_eq_if_modifyHead, if_neg (by simpa using hc), ← ih, hrest]
    rfl
  | case4 c rest hc hrest ih => exact absurd (ih.symm.trans hrest) (List.splitOn_ne_nil _ _)

/-- No part between the commas has a comma. -/
theorem not_mem_of_mem_splitAtCommas {cs part : List Char} (h : part ∈ splitAtCommas cs) :
    ',' ∉ part := by
  fun_induction splitAtCommas cs generalizing part with
  | case1 => simp_all
  | case2 rest ih =>
    rcases List.mem_cons.mp h with rfl | h
    · exact List.not_mem_nil
    · exact ih h
  | case3 c rest hc first parts hrest ih =>
    rw [hrest] at ih
    rcases List.mem_cons.mp h with rfl | h
    · rw [List.mem_cons, not_or]
      exact ⟨Ne.symm hc, ih List.mem_cons_self⟩
    · exact ih (List.mem_cons_of_mem _ h)
  | case4 c rest hc hrest ih =>
    obtain rfl := List.mem_singleton.mp h
    simpa using Ne.symm hc

theorem forall₂_trimmed_iff {parts words : List (List Char)} :
    List.Forall₂ Text.Trimmed parts words ↔ words = parts.map Text.trim := by
  constructor
  · intro h
    induction h with
    | nil => rfl
    | cons hword _ ih => rw [hword.eq_trim, ih, List.map_cons]
  · rintro rfl
    exact List.forall₂_map_right_iff.mpr
      (List.forall₂_same.mpr fun part _ => Text.trimmed_trim part)

/-- A text says just one list, the one that reading it gives. -/
theorem saysList_iff : SaysList value entries ↔ entries = parseList value := by
  rw [parseList]
  constructor
  · rintro ⟨parts, words, hne, hcommas, hvalue, htrimmed, rfl⟩
    rw [hvalue, splitAtCommas_eq, List.splitOn_intercalate _ hcommas hne,
      forall₂_trimmed_iff.mp htrimmed]
  · rintro rfl
    refine ⟨splitAtCommas value.toList, _, ?_, fun part => not_mem_of_mem_splitAtCommas, ?_,
      forall₂_trimmed_iff.mpr rfl, rfl⟩
    · rw [splitAtCommas_eq]
      exact List.splitOn_ne_nil _ _
    · rw [splitAtCommas_eq]
      exact (List.intercalate_splitOn _).symm

end Setting

/-! ## Variables -/

namespace Environment

variable {env : Environment} {name : String}

/-- The value of a variable is a text. -/
def Holds (env : Environment) (name text : String) : Prop :=
  env.value? name = some text.toUTF8

/-- The value of a variable is no text. -/
def Garbled (env : Environment) (name : String) : Prop :=
  ∃ bytes, env.value? name = some bytes ∧ ∀ text : String, text.toUTF8 ≠ bytes

/-- A variable says a truth value. -/
def SaysBool (env : Environment) (name : String) (on : Bool) : Prop :=
  ∃ text, env.Holds name text ∧ Setting.SaysBool text on

/-- A variable says a list. -/
def SaysList (env : Environment) (name : String) (entries : List String) : Prop :=
  ∃ text, env.Holds name text ∧ Setting.SaysList text entries

/-- What is wrong with a variable, from which a truth value is wanted if `boolean`, and otherwise a
list. -/
inductive Fault (env : Environment) (name : String) : (boolean : Bool) → SettingError → Prop where
  /-- The value is no text. -/
  | notUnicode {boolean : Bool} : env.Garbled name → Fault env name boolean (.notUnicode name)
  /-- The value is a text that says no truth value. -/
  | invalidBoolean {text : String} {word : List Char} : env.Holds name text →
    (∀ on, ¬ Setting.SaysBool text on) → Text.Trimmed text.toList word →
      Fault env name true (.invalidBoolean name (String.ofList word))

theorem Holds.unique {text other : String} (h : env.Holds name text) (h' : env.Holds name other) :
    text = other := by
  rw [Holds, h] at h'
  exact String.toByteArray_inj.mp (Option.some.inj h')

theorem Holds.not_garbled {text : String} (h : env.Holds name text) : ¬ env.Garbled name := by
  rintro ⟨bytes, hbytes, hne⟩
  rw [Holds, hbytes] at h
  exact hne text (Option.some.inj h).symm

theorem not_holds_of_unset (h : env.value? name = none) (text : String) :
    ¬ env.Holds name text := by
  simp [Holds, h]

/-- What a variable says is what its text says. -/
theorem Holds.saysBool_iff {text : String} (h : env.Holds name text) {on : Bool} :
    env.SaysBool name on ↔ Setting.SaysBool text on :=
  ⟨fun ⟨_, hother, hsaid⟩ => h.unique hother ▸ hsaid, fun hsaid => ⟨text, h, hsaid⟩⟩

theorem Holds.saysList_iff {text : String} (h : env.Holds name text) {entries : List String} :
    env.SaysList name entries ↔ Setting.SaysList text entries :=
  ⟨fun ⟨_, hother, hsaid⟩ => h.unique hother ▸ hsaid, fun hsaid => ⟨text, h, hsaid⟩⟩

/-- A variable is unset, or its value is a text, or it is none. -/
theorem text?_cases (env : Environment) (name : String) :
    env.value? name = none ∧ env.text? name = .ok none ∨
      (∃ text, env.Holds name text ∧ env.text? name = .ok (some text)) ∨
      env.Garbled name ∧ env.text? name = .error (.notUnicode name) := by
  rw [text?]
  rcases hvalue : env.value? name with _ | bytes
  · exact .inl ⟨rfl, rfl⟩
  · by_cases hvalid : bytes.IsValidUTF8
    · have htext : String.fromUTF8? bytes = some (String.fromUTF8 bytes hvalid) := dif_pos hvalid
      refine .inr (.inl ⟨String.fromUTF8 bytes hvalid, hvalue, ?_⟩)
      simp only [htext]
    · have htext : String.fromUTF8? bytes = none := dif_neg hvalid
      refine .inr (.inr ⟨⟨bytes, hvalue, ?_⟩, ?_⟩)
      · rintro text rfl
        exact hvalid text.isValidUTF8
      · simp only [htext]

end Environment

/-! ## Readings -/

namespace Reporting

variable {α β : Type} {a : α} {b : β} {faults later : List SettingError}

/-- A computation yields a value and reports faults, whatever was reported before. -/
def Yields (x : Reporting α) (a : α) (faults : List SettingError) : Prop :=
  ∀ log, x log = (a, log ++ faults.map Diagnostic.invalidSetting)

theorem yields_pure (a : α) : Yields (pure a) a [] := by
  intro log
  rw [List.map_nil, List.append_nil]
  rfl

theorem yields_report (error : SettingError) :
    Yields (report (.invalidSetting error)) () [error] := fun _ => rfl

/-- Computations in a row report their faults in a row. -/
theorem Yields.bind {x : Reporting α} {f : α → Reporting β} (hx : Yields x a faults)
    (hf : Yields (f a) b later) : Yields (x >>= f) b (faults ++ later) := by
  intro log
  show (match x log with | (a, log') => f a log') = _
  rw [hx log, List.map_append, ← List.append_assoc]
  exact hf _

theorem Yields.bind_pure {x : Reporting α} (h : Yields x a faults) (f : α → β) :
    Yields (do return f (← x)) (f a) faults := by
  rw [← List.append_nil faults]
  exact h.bind (yields_pure _)

end Reporting

namespace Environment

open Reporting

variable {α : Type} {env env' : Environment} {name : String}

/-- A variable has at most one fault. -/
theorem Fault.unique {boolean : Bool} {error error' : SettingError}
    (h : env.Fault name boolean error) (h' : env.Fault name boolean error') : error = error' := by
  cases h with
  | notUnicode hgarbled =>
    cases h' with
    | notUnicode => rfl
    | invalidBoolean hholds => exact absurd hgarbled hholds.not_garbled
  | invalidBoolean hholds _ hword =>
    cases h' with
    | notUnicode hgarbled => exact absurd hgarbled hholds.not_garbled
    | invalidBoolean hholds' _ hword' =>
      obtain rfl := hholds.unique hholds'
      rw [hword.eq_trim, hword'.eq_trim]

/-- A fault that is there is the only one, so an answer to what is wrong is right if it is a fault,
or if it is none and there is none. -/
theorem Fault.eq_some_iff {boolean : Bool} {fault : Option SettingError}
    (hsome : ∀ error ∈ fault, env.Fault name boolean error)
    (hnone : fault = none → ∀ error, ¬ env.Fault name boolean error) (error : SettingError) :
    fault = some error ↔ env.Fault name boolean error := by
  refine ⟨hsome error, fun h => ?_⟩
  rcases fault with _ | found
  · exact absurd h (hnone rfl error)
  · exact congrArg some ((hsome found rfl).unique h)

theorem not_fault_of_unset {boolean : Bool} (h : env.value? name = none) (error : SettingError) :
    ¬ env.Fault name boolean error := by
  rintro (⟨bytes, hbytes, -⟩ | ⟨hholds, -, -⟩)
  · cases h.symm.trans hbytes
  · exact not_holds_of_unset h _ hholds

/-- A text that says what is wanted is no fault. -/
theorem Holds.not_fault {boolean : Bool} {text : String} (h : env.Holds name text)
    (hsaid : boolean = true → ∃ on, Setting.SaysBool text on) (error : SettingError) :
    ¬ env.Fault name boolean error := by
  rintro (hgarbled | ⟨hholds, hnone, -⟩)
  · exact h.not_garbled hgarbled
  · obtain ⟨on, hon⟩ := hsaid rfl
    exact hnone on (h.unique hholds ▸ hon)

section Read

variable (parse : String → Except SettingError α) (default : α)

theorem yields_readWith_unset (htext : env.text? name = .ok none) :
    Yields (env.readWith parse default name) default [] := by
  rw [readWith, htext]
  exact yields_pure default

theorem yields_readWith_garbled {error : SettingError} (htext : env.text? name = .error error) :
    Yields (env.readWith parse default name) default [error] := by
  rw [readWith, htext]
  exact (yields_report error).bind (yields_pure default)

/-- What is read from a variable whose value is a text is what parsing the text gives. -/
theorem yields_readWith_text {text : String} (htext : env.text? name = .ok (some text)) :
    (∀ a, parse text = .ok a → Yields (env.readWith parse default name) a []) ∧
      ∀ error, parse text = .error error →
        Yields (env.readWith parse default name) default [error] := by
  have hread : ((env.text? name).bind fun text => text.mapM parse) = some <$> parse text := by
    rw [htext]
    rfl
  rw [readWith, hread]
  constructor
  · intro a ha
    rw [ha]
    exact yields_pure a
  · intro error herror
    rw [herror]
    exact (yields_report error).bind (yields_pure default)

end Read

/-- A variable that is to say a truth value is off unless it says that it is on, and what is wrong
with it is reported. -/
theorem readBool_spec (env : Environment) (name : String) :
    ∃ on fault, Yields (env.readBool name false) on (Option.toList fault) ∧
      (on = true ↔ env.SaysBool name true) ∧
      ∀ error, fault = some error ↔ env.Fault name true error := by
  -- A variable that is unset, one that is a text, and one that is none.
  rcases env.text?_cases name with ⟨hunset, htext⟩ | ⟨text, hholds, htext⟩ | ⟨hgarbled, htext⟩
  · refine ⟨false, none, yields_readWith_unset _ _ htext, ?_, Fault.eq_some_iff nofun fun _ =>
      not_fault_of_unset hunset⟩
    simp [SaysBool, Holds, hunset]
  · obtain ⟨hok, herror⟩ := yields_readWith_text (Setting.parseBool name) false htext
    rcases Setting.parseBool_cases name text with ⟨on, hsaid, hparse⟩ | ⟨hnone, hparse⟩
    · refine ⟨on, none, hok on hparse, ?_, Fault.eq_some_iff nofun fun _ =>
        hholds.not_fault fun _ => ⟨on, hsaid⟩⟩
      rw [hholds.saysBool_iff]
      exact ⟨fun hon => hon ▸ hsaid, hsaid.unique⟩
    · refine ⟨false, some _, herror _ hparse, ?_, Fault.eq_some_iff ?_ nofun⟩
      · rw [hholds.saysBool_iff]
        exact iff_of_false Bool.false_ne_true (hnone true)
      · rintro _ ⟨⟩
        exact .invalidBoolean hholds hnone (Text.trimmed_trim _)
  · refine ⟨false, some _, yields_readWith_garbled _ _ htext, ?_, Fault.eq_some_iff ?_ nofun⟩
    · exact iff_of_false Bool.false_ne_true fun ⟨_, hholds, _⟩ => hholds.not_garbled hgarbled
    · rintro _ ⟨⟩
      exact .notUnicode hgarbled

/-- A variable that is to say a list gives what it says, if it says one, and what is wrong with it
is reported. -/
theorem readList?_spec (env : Environment) (name : String) :
    ∃ entries fault, Yields (env.readList? name) entries (Option.toList fault) ∧
      (∀ said, entries = some said ↔ env.SaysList name said) ∧
      ∀ error, fault = some error ↔ env.Fault name false error := by
  -- Every text says a list, so that only a value that is no text is a fault.
  rcases env.text?_cases name with ⟨hunset, htext⟩ | ⟨text, hholds, htext⟩ | ⟨hgarbled, htext⟩
  · refine ⟨none, none, yields_readWith_unset _ _ htext, fun said => ?_, Fault.eq_some_iff nofun
      fun _ => not_fault_of_unset hunset⟩
    simp [SaysList, Holds, hunset]
  · refine ⟨some (Setting.parseList text), none, (yields_readWith_text _ _ htext).1 _ rfl,
      fun said => ?_, Fault.eq_some_iff nofun fun _ => hholds.not_fault nofun⟩
    rw [hholds.saysList_iff, Setting.saysList_iff, Option.some_inj, eq_comm]
  · refine ⟨none, some _, yields_readWith_garbled _ _ htext, fun said => ?_,
      Fault.eq_some_iff ?_ nofun⟩
    · exact iff_of_false nofun fun ⟨_, hholds, _⟩ => hholds.not_garbled hgarbled
    · rintro _ ⟨⟩
      exact .notUnicode hgarbled

/-- Reading a variable looks at nothing else in the environment. -/
theorem readWith_congr {parse : String → Except SettingError α} {default : α}
    (h : env.value? name = env'.value? name) :
    env.readWith parse default name = env'.readWith parse default name := by
  rw [readWith, readWith, text?, text?, h]

end Environment

end Telemetry
