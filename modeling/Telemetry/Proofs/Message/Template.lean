import Mathlib.Data.List.Chain
import Telemetry.Proofs.Message.Reading

/-!
# Templates

A template is what a pattern is written for: literal texts, and arguments by their numbers.

* `Pattern.Template.fill`: the text that a template stands for, given parameters.
* `Pattern.Template.encode`: a pattern for a template. In a literal text every single quote is
  doubled, and what comes after the first opening brace is quoted.

Main statement: the pattern of a template stands for what the template does, whatever quotes, braces
and digits its texts hold (`Pattern.formatMessage_encode`).
-/

namespace Telemetry.Pattern

/-- A part of a template. -/
inductive Part where
  /-- A literal text. -/
  | text (s : String)
  /-- The number of an argument. -/
  | argument (index : Nat)
deriving DecidableEq, Repr

/-- Literal texts and arguments, in order. -/
abbrev Template := List Part

/-- What stands for a part: a text for itself, and for an argument its parameter as it is given, or
the number in braces if there is no such parameter. -/
def Part.fill (parameters : List String) : Part → String
  | text s => s
  | argument index => parameters[index]?.getD ("\x7b" ++ toString index ++ "\x7d")

/-- The text that a template stands for. -/
def Template.fill (parameters : List String) (template : Template) : String :=
  String.join (template.map (Part.fill parameters))

/-- A part as a reader of patterns sees it. -/
def Part.pieces : Part → List Piece
  | text s => s.toList.map .literal
  | argument index => [.parameter index]

variable {template : Template} {parameters : List String} {part : Part} {cs rest : List Char}
  {quoted : Bool} {index : Nat}

theorem Part.render_pieces :
    part.pieces.flatMap (Piece.render parameters) = (part.fill parameters).toList := by
  cases part with
  | text s => simp [pieces, fill, Piece.render, List.flatMap_map, List.flatMap_singleton']
  | argument index =>
    rw [pieces, List.flatMap_singleton, Piece.render, fill]
    cases parameters[index]? with
    | none => simp
    | some text => rfl

/-- Rendering what a reader sees of a template fills it. -/
theorem Template.render_pieces :
    String.ofList ((template.flatMap Part.pieces).flatMap (Piece.render parameters)) =
      template.fill parameters := by
  rw [fill, ← String.toList_inj, String.toList_ofList, String.toList_join, List.flatMap_assoc,
    List.flatMap_map]
  simp only [Part.render_pieces]

/-! ## Patterns for templates -/

/-- The characters with each single quote doubled. -/
def doubleQuotes (cs : List Char) : List Char :=
  cs.flatMap fun c => if c = '\'' then ['\'', '\''] else [c]

/-- A literal text in a pattern. Its single quotes are doubled, and a single quote stands before its
first opening brace and another one at its end. -/
def escapeText (cs : List Char) : List Char :=
  if '{' ∈ cs then
    doubleQuotes (cs.takeWhile (· ≠ '{')) ++
      '\'' :: (doubleQuotes (cs.dropWhile (· ≠ '{')) ++ ['\''])
  else doubleQuotes cs

/-- A part of a template in a pattern. -/
def Part.encode : Part → List Char
  | text s => escapeText s.toList
  | argument index => '{' :: ((toString index).toList ++ ['}'])

/-- A pattern for a template. -/
def Template.encode (template : Template) : String :=
  String.ofList (template.flatMap Part.encode)

/-- Whether a part is a literal text. -/
def Part.isText : Part → Bool
  | text _ => true
  | argument _ => false

/-- No two literal texts of a template are adjacent. -/
def Template.Separated (template : Template) : Prop :=
  template.IsChain fun part next => ¬ (part.isText ∧ next.isText)

/-! ## Reading them back -/

/-- Doubled quotes are read as one each, where braces are literal or there is none that opens. -/
theorem read?_doubleQuotes (quoted : Bool) (h : quoted = true ∨ '{' ∉ cs) :
    read? (.outside quoted) (doubleQuotes cs ++ rest) =
      (read? (.outside quoted) rest).map (cs.map .literal ++ ·) := by
  induction cs with
  | nil => exact (Option.map_id_apply).symm
  | cons c cs ih =>
    have htail : quoted = true ∨ '{' ∉ cs := h.imp_right fun hmem hcs => hmem (.tail c hcs)
    have hstep : read? (.outside quoted) (doubleQuotes (c :: cs) ++ rest) =
        (read? (.outside quoted) (doubleQuotes cs ++ rest)).map (.literal c :: ·) := by
      rw [doubleQuotes, List.flatMap_cons, List.append_assoc, ← doubleQuotes]
      by_cases hquote : c = '\''
      · subst hquote
        exact read?_pair
      · rw [if_neg hquote]
        exact read?_literal hquote (h.imp_right fun hmem hc => hmem (hc ▸ .head cs))
    rw [hstep, ih htail, Option.map_map]
    rfl

/-- A literal text is read as it is given, unless a single quote follows it. -/
theorem read?_escapeText (hrest : rest.head? ≠ some '\'') :
    read? .plain (escapeText cs ++ rest) = (read? .plain rest).map (cs.map .literal ++ ·) := by
  by_cases hopen : '{' ∈ cs
  · obtain ⟨front, back, rfl, hfront⟩ := List.eq_append_cons_of_mem hopen
    have hbefore : ∀ c ∈ front, decide (c ≠ '{') = true := fun c hc =>
      decide_eq_true fun heq => hfront (heq ▸ hc)
    have hescape : escapeText (front ++ '{' :: back) ++ rest =
        doubleQuotes front ++ '\'' :: (doubleQuotes ('{' :: back) ++ '\'' :: rest) := by
      rw [escapeText, if_pos hopen, List.takeWhile_append_of_pos hbefore,
        List.dropWhile_append_of_pos hbefore]
      simp
    -- The quote before the brace is single, and so is the one at the end.
    have hquote : read? (.outside false) ('\'' :: (doubleQuotes ('{' :: back) ++ '\'' :: rest)) =
        (read? (.outside false) rest).map (('{' :: back).map .literal ++ ·) := by
      rw [read?_toggle (by simp [doubleQuotes]), Bool.not_false, read?_doubleQuotes true (.inl rfl),
        read?_toggle hrest, Bool.not_true]
    calc read? .plain (escapeText (front ++ '{' :: back) ++ rest)
        = read? (.outside false)
            (doubleQuotes front ++ '\'' :: (doubleQuotes ('{' :: back) ++ '\'' :: rest)) := by
          rw [hescape]
          rfl
      _ = (read? (.outside false) rest).map ((front ++ '{' :: back).map .literal ++ ·) := by
          rw [read?_doubleQuotes false (.inr hfront), hquote, Option.map_map, List.map_append]
          simp [Function.comp_def]
  · rw [escapeText, if_neg hopen]
    exact read?_doubleQuotes false (.inr hopen)

/-- Digits are not blank. -/
theorem isBlank_of_isDigit {c : Char} (h : c.isDigit = true) : Text.isBlank c = false := by
  obtain ⟨hleast, hgreatest⟩ := Char.isDigit_iff_toNat.mp h
  simp only [Char.reduceToNat] at hleast hgreatest
  simp only [Text.isBlank, Bool.or_eq_false_iff, Bool.and_eq_false_iff, decide_eq_false_iff_not,
    beq_eq_false_iff_ne]
  omega

/-- Only digits are in a number. -/
theorem not_mem_toDigits {c : Char} (h : c.isDigit = false) : c ∉ Nat.toDigits 10 index := by
  intro hmem
  have hdigit := Nat.isDigit_of_mem_toDigits (by decide) (by decide) hmem
  rw [h] at hdigit
  cases hdigit

theorem names_toDigits (h : index < UInt64.size) : Names (Nat.toDigits 10 index) index := by
  have hdigit : ∀ c ∈ Nat.toDigits 10 index, c.isDigit = true :=
    fun c hc => Nat.isDigit_of_mem_toDigits (by decide) (by decide) hc
  have hcomma : ',' ∉ Nat.toDigits 10 index := not_mem_toDigits rfl
  have htrimmed : Text.Trimmed (Nat.toDigits 10 index) (Nat.toDigits 10 index) :=
    { around := ⟨[], [], by simp⟩
      head := fun c hc => isBlank_of_isDigit (hdigit c (List.mem_of_mem_head? hc))
      last := fun c hc => isBlank_of_isDigit (hdigit c (List.mem_of_mem_getLast? hc)) }
  exact ⟨_, [], _, _, (List.append_nil _).symm, hcomma, by simp, htrimmed, .inl rfl,
    ⟨Nat.toDigits_ne_nil, hdigit, Nat.ofDigitChars_ten_toDigits⟩, h⟩

/-- The number of an argument is read as its place. -/
theorem read?_argument (h : index < UInt64.size) :
    read? .plain ((Part.argument index).encode ++ rest) =
      (read? .plain rest).map (.parameter index :: ·) := by
  have hdigits : (toString index).toList = Nat.toDigits 10 index := by
    rw [Nat.toString_eq_ofList_toDigits, String.toList_ofList]
  have hencode : (Part.argument index).encode ++ rest =
      '{' :: (Nat.toDigits 10 index ++ '}' :: rest) := by
    rw [Part.encode, hdigits, List.cons_append, List.append_assoc, List.singleton_append]
  have hbalanced : Balanced 0 (Nat.toDigits 10 index) :=
    balanced_of_not_mem (not_mem_toDigits rfl) (not_mem_toDigits rfl)
  rw [hencode]
  refine (read?_placeholder [] hbalanced).trans ?_
  rw [List.nil_append, index?_eq_some_iff.mpr (names_toDigits h)]
  cases read? .plain rest <;> rfl

/-- The pattern of a template is read as the template. -/
theorem Template.read?_encode (hseparated : template.Separated)
    (hindex : ∀ index, .argument index ∈ template → index < UInt64.size) :
    read? .plain (template.flatMap Part.encode) = some (template.flatMap Part.pieces) := by
  induction template with
  | nil => rfl
  | cons part template ih =>
    obtain ⟨hnext, htail⟩ := List.isChain_cons.mp hseparated
    have hread := ih htail fun index hmem => hindex index (.tail part hmem)
    rw [List.flatMap_cons, List.flatMap_cons]
    cases part with
    | text s =>
      have hrest : (template.flatMap Part.encode).head? ≠ some '\'' := by
        -- What follows a literal text, if anything, is an argument.
        rcases template with _ | ⟨text | index, later⟩
        · simp
        · exact absurd ⟨rfl, rfl⟩ (hnext (.text text) rfl)
        · simp [Part.encode]
      rw [Part.encode, read?_escapeText hrest, hread]
      rfl
    | argument index =>
      rw [read?_argument (hindex index (.head template)), hread]
      rfl

/-- A pattern with an argument looks like one. -/
theorem hasPlaceholder_of_argument (h : .argument index ∈ template) :
    hasPlaceholder (template.flatMap Part.encode) = true := by
  have hne : Nat.toDigits 10 index ≠ [] := Nat.toDigits_ne_nil
  obtain ⟨c, digits, hdigits⟩ := List.exists_cons_of_ne_nil hne
  have hc : c.isDigit = true :=
    Nat.isDigit_of_mem_toDigits (by decide) (by decide) (hdigits ▸ List.mem_cons_self)
  have hpart : ['{', c] <:+: (Part.argument index).encode := by
    refine List.IsPrefix.isInfix ⟨digits ++ ['}'], ?_⟩
    rw [Part.encode, Nat.toString_eq_ofList_toDigits, String.toList_ofList, hdigits]
    rfl
  have hpattern : (Part.argument index).encode <:+: template.flatMap Part.encode :=
    List.infix_of_mem_flatten (List.mem_map_of_mem h)
  exact hasPlaceholder_iff.mpr ⟨c, hc, hpart.trans hpattern⟩

/-- A pattern written for a template stands for what the template does: its texts are as they were
given, and for each argument there is its parameter, or its number in braces. -/
theorem formatMessage_encode (template : Template) (parameters : List String)
    (hseparated : template.Separated)
    (hindex : ∀ index, .argument index ∈ template → index < UInt64.size)
    (hargument : ∃ index, .argument index ∈ template) (hparameters : parameters ≠ []) :
    formatMessage template.encode parameters = template.fill parameters := by
  obtain ⟨index, hmem⟩ := hargument
  have hread := Template.read?_encode hseparated hindex
  rw [formatMessage, Template.encode, String.toList_ofList, hasPlaceholder_of_argument hmem, hread,
    List.isEmpty_eq_false_iff.mpr hparameters]
  exact Template.render_pieces

/-- Texts with single quotes before and behind their first opening brace, one of which looks like a
placeholder, and an argument that has no parameter. -/
def quotedTemplate : Template :=
  [.text "it's '\x7b'", .argument 1, .text "'\x7b0\x7d''", .argument 18446744073709551615,
    .argument 0]

theorem quotedTemplate_formatted :
    quotedTemplate.Separated ∧ (∀ index, .argument index ∈ quotedTemplate → index < UInt64.size) ∧
      (∃ index, .argument index ∈ quotedTemplate) ∧ ["\x7b1\x7d", "'"] ≠ [] ∧
      quotedTemplate.encode =
        "it''s '''\x7b'''\x7b1\x7d'''\x7b0\x7d'''''\x7b18446744073709551615\x7d\x7b0\x7d" ∧
      formatMessage quotedTemplate.encode ["\x7b1\x7d", "'"] =
        "it's '\x7b'''\x7b0\x7d''\x7b18446744073709551615\x7d\x7b1\x7d" := by
  have hindex : ∀ index, .argument index ∈ quotedTemplate → index < UInt64.size := by
    intro index hmem
    simp only [quotedTemplate, List.mem_cons, Part.argument.injEq, reduceCtorEq, false_or,
      List.not_mem_nil, or_false] at hmem
    rcases hmem with rfl | rfl | rfl <;> decide
  have hargument : ∃ index, Part.argument index ∈ quotedTemplate := ⟨1, by decide⟩
  have hseparated : quotedTemplate.Separated := by
    simp [Template.Separated, quotedTemplate, Part.isText]
  have hparameters : ["\x7b1\x7d", "'"] ≠ [] := List.cons_ne_nil _ _
  refine ⟨hseparated, hindex, hargument, hparameters, by decide, ?_⟩
  rw [formatMessage_encode quotedTemplate _ hseparated hindex hargument hparameters]
  decide

end Telemetry.Pattern
