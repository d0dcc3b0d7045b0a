import Mathlib.Data.List.Nodup
import Std.Data.String.ToInt
import Telemetry.Statement.Parameters

/-!
# Reading rendered parameters back

* `Parameters.Lists`: the values of parameters, in the order of their positions.
* `ParameterValue.Plain`: the values whose texts are told apart.
* `ParameterValue.ofText` and `Parameters.valuesOfText`: a reader of values and of lists of values.

Main statement: what is rendered of plain values says which values they are, and nothing else
(`Parameters.render_unambiguous`).
-/

namespace Telemetry

/-! ## Values in order -/

namespace Parameters

variable {parameters : Parameters} {values : List ParameterValue}

/-- The values of parameters, each once, in ascending order of their positions. -/
def Lists (parameters : Parameters) (values : List ParameterValue) : Prop :=
  ∃ entries : List (Nat × ParameterValue), (entries.Pairwise fun entry next => entry.1 < next.1) ∧
    (∀ index value, (index, value) ∈ entries ↔ parameters[index]? = some value) ∧
    values = entries.map (·.2)

/-- The entries of a map in order are the only ones that ascend. -/
theorem lists_iff : parameters.Lists values ↔ values = parameters.toList.map (·.2) := by
  have hascending : parameters.toList.Pairwise fun entry next => entry.1 < next.1 :=
    Std.TreeMap.ordered_keys_toList.imp Nat.compare_eq_lt.mp
  constructor
  · rintro ⟨entries, hentries, hmem, rfl⟩
    have hnodup : ∀ {entries : List (Nat × ParameterValue)},
        (entries.Pairwise fun entry next => entry.1 < next.1) → entries.Nodup :=
      fun h => List.Pairwise.imp (fun hlt heq => Nat.ne_of_lt hlt (congrArg Prod.fst heq)) h
    -- Both lists have the same entries, and there is only one way to put them in order.
    have hperm : entries.Perm parameters.toList := by
      refine (List.perm_ext_iff_of_nodup (hnodup hentries) (hnodup hascending)).mpr ?_
      rintro ⟨index, value⟩
      rw [hmem, Std.TreeMap.mem_toList_iff_getElem?_eq_some]
    rw [hperm.eq_of_pairwise (fun _ _ _ _ hlt hgt => absurd hgt (Nat.lt_asymm hlt)) hentries
      hascending]
  · rintro rfl
    exact ⟨_, hascending, fun _ _ => Std.TreeMap.mem_toList_iff_getElem?_eq_some, rfl⟩

theorem Lists.render_eq (h : parameters.Lists values) :
    parameters.render = "[" ++ ",".intercalate (values.map ParameterValue.render) ++ "]" := by
  rw [render, lists_iff.mp h, List.map_map]
  rfl

end Parameters

/-! ## Values -/

namespace ParameterValue

variable {v : ParameterValue}

/-- A value of the kinds that are told apart by their texts. A text is, if it has no single quote in
it. -/
def Plain : ParameterValue → Prop
  | null | bool _ | int _ | bytes _ => True
  | text s => '\'' ∉ s.toList
  | float _ | other _ => False

/-- The value of a hexadecimal digit. -/
def hexValue (c : Char) : Nat :=
  if c.isDigit then c.toNat - '0'.toNat else c.toNat - 'a'.toNat + 10

/-- The bytes that are written as two hexadecimal digits each. -/
def bytesOfHex : List Char → List UInt8
  | high :: low :: rest => UInt8.ofNat (16 * hexValue high + hexValue low) :: bytesOfHex rest
  | _ => []

/-- The plain value with a text. -/
def ofText (cs : List Char) : ParameterValue :=
  match cs with
  | '\'' :: rest => text (String.ofList rest.dropLast)
  | '0' :: 'x' :: digits => bytes (bytesOfHex digits)
  | cs =>
    if cs = "null".toList then null
    else if cs = "true".toList then bool true
    else if cs = "false".toList then bool false
    else int ((String.ofList cs).toInt?.getD 0)

theorem hexValue_digitChar : ∀ n < 16, hexValue (Nat.digitChar n) = n := by decide

theorem bytesOfHex_display (bs : List UInt8) :
    bytesOfHex (String.join (bs.map hexByte)).toList = bs := by
  induction bs with
  | nil => rfl
  | cons b bs ih =>
    have hb : b.toNat < 256 := b.toNat_lt
    have hdigits : 16 * (b.toNat / 16) + b.toNat % 16 = b.toNat := Nat.div_add_mod _ _
    rw [List.map_cons, String.join_cons, String.toList_append, hexByte, String.toList_ofList]
    simp only [List.cons_append, List.nil_append, bytesOfHex, ih]
    rw [hexValue_digitChar _ (by omega), hexValue_digitChar _ (by omega), hdigits,
      UInt8.ofNat_toNat]

/-- An integer is written in digits, perhaps with a minus sign. -/
theorem isDigit_or_eq_of_mem_int {n : Int} {c : Char} (h : c ∈ (toString n).toList) :
    c.isDigit = true ∨ c = '-' := by
  have hdigit : ∀ {n : Nat}, c ∈ n.repr.toList → c.isDigit = true := by
    intro n hmem
    rw [Nat.repr_eq_ofList_toDigits, String.toList_ofList] at hmem
    exact Nat.isDigit_of_mem_toDigits (by decide) (by decide) hmem
  rw [Int.toString_eq_repr, Int.repr_eq_if] at h
  split at h
  · exact .inl (hdigit h)
  · rcases List.mem_append.mp (String.toList_append ▸ h) with hminus | hmem
    · exact .inr (List.mem_singleton.mp hminus)
    · exact .inl (hdigit hmem)

theorem ofText_int (n : Int) : ofText (toString n).toList = int n := by
  have hread : (String.ofList (toString n).toList).toInt? = some n := by
    rw [String.ofList_toList, Int.toString_eq_repr, Int.toInt?_repr]
  have hother : ∀ c, c.isDigit = false → c ≠ '-' → c ∉ (toString n).toList := by
    intro c hdigit hminus hmem
    exact (isDigit_or_eq_of_mem_int hmem).elim (by simp [hdigit]) hminus
  -- Each other kind of value has a text with a character that no integer has.
  generalize (toString n).toList = cs at hread hother
  have hne : ∀ c (word : List Char), c.isDigit = false → c ≠ '-' → c ∈ word → cs ≠ word :=
    fun c word hdigit hminus hmem heq => hother c hdigit hminus (heq ▸ hmem)
  rw [ofText]
  · rw [if_neg (hne 'n' _ rfl (by decide) (by decide)),
      if_neg (hne 't' _ rfl (by decide) (by decide)),
      if_neg (hne 'f' _ rfl (by decide) (by decide)), hread, Option.getD_some]
  · exact fun rest heq => hne '\'' _ rfl (by decide) List.mem_cons_self heq
  · exact fun digits heq => hne 'x' _ rfl (by decide) (.tail _ (.head _)) heq

/-- A plain value is read back from its text. -/
theorem ofText_render (h : v.Plain) : ofText v.render.toList = v := by
  cases v with
  | null => rfl
  | bool b => cases b <;> rfl
  | int n => exact ofText_int n
  | text s => simp [render, ofText]
  | bytes bs =>
    have hrender : (bytes bs).render.toList =
        '0' :: 'x' :: (String.join (bs.map hexByte)).toList := String.toList_append
    rw [hrender]
    exact congrArg bytes (bytesOfHex_display bs)
  | float x => exact h.elim
  | other s => exact h.elim

/-! ## Lists of values -/

/-- The fields between the commas of a text, where commas between single quotes do not count. -/
def splitFields : Bool → List Char → List (List Char)
  | _, [] => [[]]
  | quoted, c :: rest =>
    if c = ',' ∧ quoted = false then [] :: splitFields false rest
    else (splitFields (if c = '\'' then !quoted else quoted) rest).modifyHead (c :: ·)

variable {cs rest : List Char} {quoted : Bool}

/-- A text without single quotes belongs to one field, if its commas do not count. -/
theorem splitFields_append (quoted : Bool) (hquote : '\'' ∉ cs)
    (hcomma : quoted = true ∨ ',' ∉ cs) :
    splitFields quoted (cs ++ rest) = (splitFields quoted rest).modifyHead (cs ++ ·) := by
  induction cs with
  | nil => exact (congrFun List.modifyHead_id _).symm
  | cons c cs ih =>
    rw [List.mem_cons, not_or] at hquote
    have hc : ¬ (c = ',' ∧ quoted = false) := by
      rintro ⟨rfl, rfl⟩
      simp at hcomma
    have htail : quoted = true ∨ ',' ∉ cs := hcomma.imp_right fun hnot hmem => hnot (.tail c hmem)
    rw [List.cons_append, splitFields, if_neg hc, if_neg (Ne.symm hquote.1), ih hquote.2 htail,
      List.modifyHead_modifyHead]
    rfl

/-- Only a text is written with a single quote or a comma. -/
theorem not_mem_render {c : Char} (h : v.Plain) (htext : ∀ s, v ≠ text s)
    (hc : c = ',' ∨ c = '\'') : c ∉ v.render.toList := by
  cases v with
  | null => rcases hc with rfl | rfl <;> decide
  | bool b => rcases hc with rfl | rfl <;> cases b <;> decide
  | int n =>
    intro hmem
    have hdigit := isDigit_or_eq_of_mem_int hmem
    rcases hc with rfl | rfl <;> revert hdigit <;> decide
  | text s => exact absurd rfl (htext s)
  | bytes bs =>
    have hdigit : ∀ n < 16, c ≠ Nat.digitChar n := by rcases hc with rfl | rfl <;> decide
    have hbyte : ∀ b, c ∉ (hexByte b).toList := by
      intro b
      have hb : b.toNat < 256 := b.toNat_lt
      simpa [hexByte] using ⟨hdigit (b.toNat / 16) (by omega), hdigit (b.toNat % 16) (by omega)⟩
    have hmark : c ∉ "0x".toList := by rcases hc with rfl | rfl <;> decide
    show c ∉ ("0x" ++ String.join (bs.map hexByte)).toList
    rw [String.toList_append, List.mem_append, not_or, String.toList_join, List.flatMap_map]
    refine ⟨hmark, fun hmem => ?_⟩
    obtain ⟨b, -, hb⟩ := List.mem_flatMap.mp hmem
    exact hbyte b hb
  | float x => exact h.elim
  | other s => exact h.elim

/-- The text of a plain value belongs to one field. -/
theorem splitFields_render (h : v.Plain) :
    splitFields false (v.render.toList ++ rest) =
      (splitFields false rest).modifyHead (v.render.toList ++ ·) := by
  by_cases htext : ∃ s, v = text s
  · obtain ⟨s, rfl⟩ := htext
    have hrender : ∀ rest, (text s).render.toList ++ rest = '\'' :: (s.toList ++ '\'' :: rest) := by
      simp [render]
    -- The quote in front begins a part in which commas do not count, and the one behind ends it.
    have hquote : ∀ quoted rest, splitFields quoted ('\'' :: rest) =
        (splitFields (!quoted) rest).modifyHead ('\'' :: ·) := fun _ _ => rfl
    rw [hrender, hquote, Bool.not_false, splitFields_append true h (.inl rfl), hquote,
      Bool.not_true, List.modifyHead_modifyHead, List.modifyHead_modifyHead]
    exact congrArg (List.modifyHead · _) (funext fun field => (hrender field).symm)
  · rw [not_exists] at htext
    exact splitFields_append false (not_mem_render h htext (.inr rfl))
      (.inr (not_mem_render h htext (.inl rfl)))

theorem render_ne_empty (h : v.Plain) : v.render ≠ "" := by
  cases v with
  | null => decide
  | bool b => cases b <;> decide
  | int n =>
    show toString n ≠ ""
    rw [Int.toString_eq_repr, Int.repr_eq_if]
    split
    · exact Nat.repr_ne_empty
    · simp
  | text s => simp [render]
  | bytes bs => simp [render, display]
  | float x => exact h.elim
  | other s => exact h.elim

/-- Rendered values are split into just their texts. -/
theorem splitFields_intercalate {values : List ParameterValue} (hne : values ≠ [])
    (hplain : ∀ v ∈ values, v.Plain) :
    splitFields false ([','].intercalate (values.map (·.render.toList))) =
      values.map (·.render.toList) := by
  induction values with
  | nil => exact absurd rfl hne
  | cons v values ih =>
    obtain ⟨hv, hvalues⟩ := List.forall_mem_cons.mp hplain
    cases values with
    | nil =>
      have hfield : splitFields false (v.render.toList ++ []) =
          (splitFields false []).modifyHead (v.render.toList ++ ·) := splitFields_render hv
      simpa [splitFields] using hfield
    | cons w values =>
      have hrest := ih (List.cons_ne_nil w values) hvalues
      rw [List.map_cons] at hrest
      rw [List.map_cons, List.map_cons, List.intercalate_cons_cons, List.append_assoc,
        splitFields_render hv, List.singleton_append, splitFields, if_pos ⟨rfl, rfl⟩, hrest,
        List.modifyHead_cons, List.append_nil]

end ParameterValue

namespace Parameters

open ParameterValue

variable {parameters : Parameters} {values : List ParameterValue}

/-- The values that are listed in brackets. -/
def valuesOfText (cs : List Char) : List ParameterValue :=
  if cs = ['[', ']'] then [] else (splitFields false cs.tail.dropLast).map ofText

/-- Plain values are read back from the list of their texts. -/
theorem valuesOfText_render (hlists : parameters.Lists values) (hplain : ∀ v ∈ values, v.Plain) :
    valuesOfText parameters.render.toList = values := by
  have hrender : parameters.render.toList =
      '[' :: ([','].intercalate (values.map (·.render.toList)) ++ [']']) := by
    rw [hlists.render_eq, String.toList_append, String.toList_append, String.toList_intercalate,
      List.map_map]
    rfl
  rw [hrender]
  by_cases hne : values = []
  · rw [hne]
    rfl
  · have hsplit := splitFields_intercalate hne hplain
    have hbody : [','].intercalate (values.map (·.render.toList)) ≠ [] := by
      -- Otherwise there would be one value only, and its text would be empty.
      intro hnil
      obtain ⟨v, rest, rfl⟩ := List.exists_cons_of_ne_nil hne
      rw [hnil, splitFields, List.map_cons, List.cons.injEq] at hsplit
      exact render_ne_empty (hplain v (.head rest)) (String.toList_eq_nil_iff.mp hsplit.1.symm)
    rw [valuesOfText, if_neg (by simpa using hbody), List.tail_cons, List.dropLast_concat, hsplit,
      List.map_map]
    exact (List.map_congr_left fun v hv => ofText_render (hplain v hv)).trans (List.map_id values)

/-- Plain values can be told by what is rendered of them. Parameters are rendered as the same text
just if they list the same values, of the same kinds, and a reader of the text finds the values. -/
theorem render_unambiguous (p q : Parameters) (vs ws : List ParameterValue) (hp : p.Lists vs)
    (hq : q.Lists ws) (hvs : ∀ v ∈ vs, v.Plain) (hws : ∀ w ∈ ws, w.Plain) :
    (p.render = q.render ↔ vs = ws) ∧ valuesOfText p.render.toList = vs := by
  have hread := valuesOfText_render hp hvs
  refine ⟨⟨fun hrender => ?_, ?_⟩, hread⟩
  · rw [← hread, hrender, valuesOfText_render hq hws]
  · rintro rfl
    rw [hp.render_eq, hq.render_eq]

/-- Values with commas and brackets in them, and others of which only the last is of another
kind. -/
theorem mixed_read_back :
    let p : Parameters := (((∅ : Parameters).insert 4 (.bytes [10, 255])).insert 1
      (.text "a,b]")).insert 9 (.int (-9223372036854775808))
    let q : Parameters := (((∅ : Parameters).insert 2 (.text "a,b]")).insert 3
      (.bytes [10, 255])).insert 5 (.text "-9223372036854775808")
    let vs : List ParameterValue := [.text "a,b]", .bytes [10, 255], .int (-9223372036854775808)]
    let ws : List ParameterValue := [.text "a,b]", .bytes [10, 255], .text "-9223372036854775808"]
    p.Lists vs ∧ q.Lists ws ∧ (∀ v ∈ vs, v.Plain) ∧ (∀ w ∈ ws, w.Plain) ∧
      p.render ≠ q.render ∧ valuesOfText p.render.toList = vs := by
  intro p q vs ws
  have hp : p.Lists vs := lists_iff.mpr (by decide +kernel)
  have hq : q.Lists ws := lists_iff.mpr (by decide +kernel)
  have hvs : ∀ v ∈ vs, v.Plain := by simp [vs, Plain]
  have hws : ∀ w ∈ ws, w.Plain := by simp [ws, Plain]
  obtain ⟨hrender, hread⟩ := render_unambiguous p q vs ws hp hq hvs hws
  have hne : vs ≠ ws := by decide +kernel
  exact ⟨hp, hq, hvs, hws, fun heq => hne (hrender.mp heq), hread⟩

end Parameters

end Telemetry
