import Telemetry.Proofs.Message.Template

/-!
# What becomes of a pattern

Whether parameters are put into a pattern is settled by the pattern alone.

* `Pattern.Fixed`: the patterns that no parameters change.
* `Pattern.Says`: the template that a pattern says, as a reader finds it from left to right.

Main statement: a pattern comes back unchanged for all parameters if it is fixed, and only then; any
other pattern says a template, which is filled with the parameters as they are
(`Pattern.formatMessage_all_or_nothing`).
-/

namespace Telemetry.Pattern

variable {cs : List Char} {items : List Item} {pieces : List Piece} {pattern : String}
  {parameters : List String} {quoted : Bool}

/-- A pattern that no parameters change: no opening brace in it is followed by a digit, or it is
malformed. -/
def Fixed (cs : List Char) : Prop :=
  (∀ c, c.isDigit = true → ¬ ['{', c] <:+: cs) ∨ ∃ items, Items false cs items ∧ Malformed items

/-- A piece as a part of a template. -/
def Piece.part : Piece → Part
  | literal c => .text (String.singleton c)
  | parameter index => .argument index

/-- A pattern says a template: the literal characters, and the parameters that the placeholders
name. -/
def Says (cs : List Char) (template : Template) : Prop :=
  ∃ items pieces, Items false cs items ∧ List.Forall₂ Item.Reads items pieces ∧
    template = pieces.map Piece.part

theorem Piece.pieces_part (piece : Piece) : piece.part.pieces = [piece] := by
  cases piece with
  | literal c => simp [part, Part.pieces]
  | parameter index => rfl

/-- Rendering pieces fills the template that they are parts of. -/
theorem render_eq_fill :
    String.ofList (pieces.flatMap (Piece.render parameters)) =
      Template.fill parameters (pieces.map Piece.part) := by
  rw [← Template.render_pieces, List.flatMap_map]
  simp [Piece.pieces_part]

/-! ## The two outcomes -/

/-- A fixed pattern comes back as it is. -/
theorem formatMessage_of_fixed (h : Fixed pattern.toList) :
    formatMessage pattern parameters = pattern := by
  rcases h with hplain | ⟨items, hitems, hmalformed⟩
  · have hlooks : hasPlaceholder pattern.toList = false := by
      rw [Bool.eq_false_iff, ne_eq, hasPlaceholder_iff]
      rintro ⟨c, hdigit, hinfix⟩
      exact hplain c hdigit hinfix
    rw [formatMessage, hlooks, Bool.not_false, Bool.or_true, if_pos rfl]
  · have hread : read? .plain pattern.toList = none := hitems.read?_eq_none_iff.mpr hmalformed
    rw [formatMessage, hread]
    split <;> rfl

/-- A pattern that is not fixed looks like a pattern and says a template. -/
theorem says_of_not_fixed (h : ¬ Fixed cs) :
    hasPlaceholder cs = true ∧ ∃ template, Says cs template := by
  rw [Fixed, not_or] at h
  obtain ⟨hlooks, hread⟩ := h
  constructor
  · rw [hasPlaceholder_iff]
    simpa using hlooks
  · obtain ⟨items, hitems⟩ := exists_items false cs
    have hwell : ¬ Malformed items := fun hmalformed => hread ⟨items, hitems, hmalformed⟩
    rw [← hitems.read?_eq_none_iff, ← ne_eq, Option.ne_none_iff_exists'] at hwell
    obtain ⟨pieces, hpieces⟩ := hwell
    exact ⟨_, items, pieces, hitems, hitems.read?_eq_some_iff.mp hpieces, rfl⟩

/-- The template that a pattern says is filled with the parameters. -/
theorem formatMessage_of_says {template : Template} (hlooks : hasPlaceholder pattern.toList = true)
    (h : Says pattern.toList template) (hparameters : parameters ≠ []) :
    formatMessage pattern parameters = template.fill parameters := by
  obtain ⟨items, pieces, hitems, hreads, rfl⟩ := h
  have hread : read? .plain pattern.toList = some pieces := hitems.read?_eq_some_iff.mpr hreads
  rw [formatMessage, hlooks, hread, List.isEmpty_eq_false_iff.mpr hparameters]
  exact render_eq_fill

/-! ## Some parameters change a pattern that is not fixed -/

/-- A parameter may be longer than any text. -/
theorem exists_longer {index : Nat} (h : .parameter index ∈ pieces) (length : Nat) :
    ∃ parameters : List String, parameters ≠ [] ∧
      length < (pieces.flatMap (Piece.render parameters)).length := by
  let long := String.ofList (List.replicate (length + 1) 'x')
  refine ⟨List.replicate (index + 1) long, by simp, ?_⟩
  have hrender : Piece.render (List.replicate (index + 1) long) (.parameter index) =
      List.replicate (length + 1) 'x' := by
    simp [Piece.render, long]
  have hinfix : Piece.render (List.replicate (index + 1) long) (.parameter index) <:+:
      pieces.flatMap (Piece.render (List.replicate (index + 1) long)) :=
    List.infix_of_mem_flatten (List.mem_map_of_mem h)
  have hlength := hinfix.length_le
  rw [hrender, List.length_replicate] at hlength
  exact hlength

/-- Without parameters only characters were found, and as many are rendered. -/
theorem literal_of_reads (h : List.Forall₂ Item.Reads items pieces)
    (hliteral : ∀ index, .parameter index ∉ pieces) :
    (∀ item ∈ items, ∃ c, item = .literal c) ∧
      (pieces.flatMap (Piece.render parameters)).length = items.length := by
  induction h with
  | nil => simp
  | @cons item piece items pieces hread _ ih =>
    cases hread with
    | literal c =>
      obtain ⟨hitems, hlength⟩ := ih fun index hmem => hliteral index (.tail _ hmem)
      exact ⟨List.forall_mem_cons.mpr ⟨⟨c, rfl⟩, hitems⟩, by simp [Piece.render, hlength]⟩
    | placeholder names => exact absurd (.head pieces) (hliteral _)

/-- A single quote is not among the characters that are found, or is one of two, so as many
characters as there are can be found only where no brace opens. -/
theorem Items.length_lt (h : Items quoted cs items)
    (hliteral : ∀ item ∈ items, ∃ c, item = .literal c) :
    items.length < cs.length ∨ items.length = cs.length ∧ (quoted = false → '{' ∉ cs) := by
  induction h with
  | nil => exact .inr ⟨rfl, fun _ => List.not_mem_nil⟩
  | pair later ih =>
    have hlater := ih fun item hmem => hliteral item (.tail _ hmem)
    -- Two quotes are found as one character.
    simp only [List.length_cons]
    omega
  | toggle single later ih =>
    have hlater := ih hliteral
    simp only [List.length_cons]
    omega
  | @literal quoted c rest items hquote hopen later ih =>
    refine (ih fun item hmem => hliteral item (.tail _ hmem)).imp Nat.succ_lt_succ ?_
    rintro ⟨hlength, hnone⟩
    refine ⟨congrArg (· + 1) hlength, fun hplain hmem => ?_⟩
    rcases List.mem_cons.mp hmem with rfl | hmem
    · simp [hplain] at hopen
    · exact hnone hplain hmem
  | placeholder closed later ih => simpa using hliteral _ (.head _)
  | unclosed never => simpa using hliteral _ (.head _)

/-- Some parameters give a text of another length than the pattern that says it. -/
theorem exists_length_ne {template : Template} (hlooks : hasPlaceholder cs = true)
    (h : Says cs template) :
    ∃ parameters, parameters ≠ [] ∧ (template.fill parameters).length ≠ cs.length := by
  obtain ⟨items, pieces, hitems, hreads, rfl⟩ := h
  simp only [← render_eq_fill, String.length_ofList]
  by_cases hparameter : ∃ index, Piece.parameter index ∈ pieces
  · obtain ⟨index, hmem⟩ := hparameter
    obtain ⟨parameters, hne, hlonger⟩ := exists_longer hmem cs.length
    exact ⟨parameters, hne, Nat.ne_of_gt hlonger⟩
  · -- All that looks like a placeholder is quoted, and the quotes are lost.
    obtain ⟨hliteral, hlength⟩ := literal_of_reads hreads (not_exists.mp hparameter)
    obtain ⟨c, -, hinfix⟩ := hasPlaceholder_iff.mp hlooks
    have hopen : '{' ∈ cs := hinfix.subset (by simp)
    refine ⟨[""], by simp, ?_⟩
    rw [hlength]
    rcases hitems.length_lt hliteral with hlt | ⟨-, hnone⟩
    · exact Nat.ne_of_lt hlt
    · exact absurd hopen (hnone rfl)

/-! ## The outcome -/

/-- Whether parameters are put into a pattern is settled by the pattern alone. It comes back
unchanged whatever parameters are given just if it is fixed. Otherwise it says a template, and
whatever parameters are given fill that template, each as a whole and as it is. -/
theorem formatMessage_all_or_nothing (pattern : String) :
    ((∀ parameters, parameters ≠ [] → formatMessage pattern parameters = pattern) ↔
      Fixed pattern.toList) ∧
    (Fixed pattern.toList ∨ ∃ template, Says pattern.toList template ∧
      ∀ parameters, parameters ≠ [] →
        formatMessage pattern parameters = template.fill parameters) := by
  by_cases hfixed : Fixed pattern.toList
  · exact ⟨iff_of_true (fun _ _ => formatMessage_of_fixed hfixed) hfixed, .inl hfixed⟩
  · obtain ⟨hlooks, template, hsays⟩ := says_of_not_fixed hfixed
    refine ⟨iff_of_false (fun hsame => ?_) hfixed, .inr ⟨template, hsays, fun parameters =>
      formatMessage_of_says hlooks hsays⟩⟩
    -- Some parameters give a text that is not even as long as the pattern.
    obtain ⟨parameters, hne, hlength⟩ := exists_length_ne hlooks hsays
    rw [← formatMessage_of_says hlooks hsays hne, hsame parameters hne] at hlength
    exact hlength String.length_toList.symm

example : formatMessage "\x7b0\x7d, \x7b +01 ,\x7b'\x7d\x7d" ["\x7b1\x7d", "it's"] =
    "\x7b1\x7d, it's" := by decide

end Telemetry.Pattern
