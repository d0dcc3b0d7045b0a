import Mathlib.Data.List.DropRight
import Telemetry.Text.Blank

/-!
# Trimmed texts

A text without the blanks at its ends (`Text.Trimmed`), said without the function that trims, and
the proof that trimming a text gives just that (`Text.trimmed_iff`).
-/

namespace Telemetry.Text

variable {cs word : List Char}

/-- The text `cs` is `word` with blanks around it, and `word` neither begins nor ends with one. -/
structure Trimmed (cs word : List Char) : Prop where
  around : ∃ before after, cs = before ++ word ++ after ∧
    (∀ c ∈ before, isBlank c = true) ∧ ∀ c ∈ after, isBlank c = true
  head : ∀ c ∈ word.head?, isBlank c = false
  last : ∀ c ∈ word.getLast?, isBlank c = false

/-- What is left of a text does not begin with what was dropped from it. -/
theorem head?_trimLeft (cs : List Char) : ∀ c ∈ (trimLeft cs).head?, isBlank c = false := by
  intro c hc
  have hhead := List.head?_dropWhile_not isBlank cs
  rw [← trimLeft, show (trimLeft cs).head? = some c from hc] at hhead
  exact hhead

theorem trimmed_trim (cs : List Char) : Trimmed cs (trim cs) where
  around := by
    have hsplit : trim cs ++ (trimLeft cs).rtakeWhile isBlank = trimLeft cs :=
      List.rdropWhile_append_rtakeWhile
    refine ⟨cs.takeWhile isBlank, (trimLeft cs).rtakeWhile isBlank, ?_, ?_, ?_⟩
    · rw [List.append_assoc, hsplit]
      exact List.takeWhile_append_dropWhile.symm
    · exact fun c => List.mem_takeWhile_imp
    · exact fun c => List.mem_rtakeWhile_imp
  head := by
    -- Cutting blanks off the end leaves the first character, if any, as it is.
    obtain ⟨rest, hrest⟩ : trim cs <+: trimLeft cs := List.rdropWhile_prefix isBlank _
    intro c hc
    refine head?_trimLeft cs c ?_
    rw [← hrest, List.head?_append, show (trim cs).head? = some c from hc]
    rfl
  last := by
    intro c hc
    refine head?_trimLeft (trimLeft cs).reverse c ?_
    rwa [trim, trimRight, List.getLast?_reverse] at hc

/-- A text has only one word that is left when it is trimmed. -/
theorem Trimmed.eq_trim (h : Trimmed cs word) : word = trim cs := by
  obtain ⟨before, after, rfl, hbefore, hafter⟩ := h.around
  have hleft : trimLeft (before ++ word ++ after) = trimLeft (word ++ after) := by
    rw [List.append_assoc]
    exact List.dropWhile_append_of_pos hbefore
  rw [trim, hleft]
  rcases word with _ | ⟨c, rest⟩
  · -- Of blanks alone nothing is left.
    have hnil : trimLeft after = [] := List.dropWhile_eq_nil_iff.mpr hafter
    rw [List.nil_append, hnil]
    rfl
  · have hhead : trimLeft (c :: rest ++ after) = c :: rest ++ after :=
      List.dropWhile_cons_of_neg (by simp [h.head c rfl])
    have hreverse : trimLeft (c :: rest ++ after).reverse = trimLeft (c :: rest).reverse := by
      rw [List.reverse_append]
      exact List.dropWhile_append_of_pos fun c hc => hafter c (List.mem_reverse.mp hc)
    have hlast : trimLeft (c :: rest).reverse = (c :: rest).reverse := by
      rcases hword : (c :: rest).reverse with _ | ⟨d, front⟩
      · rfl
      · have hd : d ∈ (c :: rest).getLast? := by
          rw [List.getLast?_eq_head?_reverse, hword]
          rfl
        exact List.dropWhile_cons_of_neg (by simp [h.last d hd])
    rw [hhead, trimRight, hreverse, hlast, List.reverse_reverse]

theorem trimmed_iff : Trimmed cs word ↔ word = trim cs :=
  ⟨Trimmed.eq_trim, fun h => h ▸ trimmed_trim cs⟩

end Telemetry.Text
