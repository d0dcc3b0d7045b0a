import Telemetry.Proofs.Settings.Reading

/-!
# The text of a list

A list is written as items with commas between them. An item is an entry with blanks around it, or
it is blank and stands for nothing. This says which texts a list can have (`Setting.Spells`), beside
the function that reads them.

* `Setting.IsEntry`: what an entry can be.
* `Setting.parseList_append_comma`: reading begins anew after a comma. All that is said of whole
  lists comes from this equation and from the reading of a single item.
* `Setting.exists_spells`: every text is written in this way, for the entries that reading it gives.

Main statement: `Setting.lists_read_as_written`.
-/

namespace Telemetry.Setting

/-! ## Items and entries -/

/-- A text without any character but blanks. -/
def IsBlank (text : String) : Prop := ∀ c ∈ text.toList, Text.isBlank c = true

/-- A text that can be an entry of a list. -/
structure IsEntry (entry : String) : Prop where
  ne_empty : entry ≠ ""
  no_comma : ',' ∉ entry.toList
  head : ∀ c ∈ entry.toList.head?, Text.isBlank c = false
  last : ∀ c ∈ entry.toList.getLast?, Text.isBlank c = false

/-- Items that are written for some entries: each entry in its turn with blanks around it, and blank
items anywhere. -/
inductive Spells : (items entries : List String) → Prop where
  /-- There are no more items. -/
  | nil : Spells [] []
  /-- A blank item stands for no entry. -/
  | blank {item : String} {items entries : List String} : IsBlank item → Spells items entries →
    Spells (item :: items) entries
  /-- An entry may have blanks around it. -/
  | entry {before entry after : String} {items entries : List String} : IsBlank before →
    IsEntry entry → IsBlank after → Spells items entries →
      Spells ((before ++ entry ++ after) :: items) (entry :: entries)

-- Said as tests of the text, since what holds of characters might be decided by trying all of them.
instance (text : String) : Decidable (IsBlank text) :=
  decidable_of_iff (text.toList.all Text.isBlank = true) List.all_eq_true

instance (entry : String) : Decidable (IsEntry entry) :=
  decidable_of_iff (entry ≠ "" ∧ ',' ∉ entry.toList ∧
      entry.toList.head?.all (!Text.isBlank ·) = true ∧
      entry.toList.getLast?.all (!Text.isBlank ·) = true) <| by
    simp only [Option.all_eq_true, Bool.not_eq_true']
    exact ⟨fun ⟨hne, hcomma, hhead, hlast⟩ => ⟨hne, hcomma, hhead, hlast⟩,
      fun ⟨hne, hcomma, hhead, hlast⟩ => ⟨hne, hcomma, hhead, hlast⟩⟩

variable {item entry before after : String} {items entries : List String}
  {part word : List Char}

theorem IsBlank.no_comma (h : IsBlank item) : ',' ∉ item.toList :=
  fun hcomma => absurd (h ',' hcomma) (by decide)

theorem IsBlank.trimmed (h : IsBlank item) : Text.Trimmed item.toList [] where
  around := ⟨item.toList, [], by simp, h, nofun⟩
  head := nofun
  last := nofun

theorem IsEntry.trimmed (h : IsEntry entry) (hbefore : IsBlank before) (hafter : IsBlank after) :
    Text.Trimmed (before ++ entry ++ after).toList entry.toList where
  around := ⟨before.toList, after.toList, by simp, hbefore, hafter⟩
  head := h.head
  last := h.last

/-- What is left of a part without commas when it is trimmed is an entry, if anything is. -/
theorem IsEntry.of_trimmed (hcomma : ',' ∉ part) (hword : Text.Trimmed part word)
    (hne : word ≠ []) : IsEntry (String.ofList word) := by
  obtain ⟨before, after, hpart, -, -⟩ := hword.around
  refine ⟨?_, ?_, ?_, ?_⟩
  · rwa [Ne, String.ofList_eq_empty_iff]
  · rw [String.toList_ofList]
    intro hmem
    refine hcomma ?_
    rw [hpart]
    exact List.mem_append_left _ (List.mem_append_right _ hmem)
  · rw [String.toList_ofList]
    exact hword.head
  · rw [String.toList_ofList]
    exact hword.last

/-! ## Reading -/

/-- After a comma, reading begins anew. -/
theorem parseList_append_comma (a b : String) :
    parseList (a ++ "," ++ b) = parseList a ++ parseList b := by
  have hcomma : (a ++ "," ++ b).toList = a.toList ++ ',' :: b.toList := by simp
  have hsplit : splitAtCommas (a ++ "," ++ b).toList =
      splitAtCommas a.toList ++ splitAtCommas b.toList := by
    rw [hcomma, splitAtCommas_eq, splitAtCommas_eq, splitAtCommas_eq, List.splitOn_append_cons_self]
  rw [parseList, hsplit, List.map_append, List.filter_append, List.map_append]
  rfl

/-- An item without commas says the word that is left when it is trimmed, if any. -/
theorem parseList_item (hcomma : ',' ∉ item.toList) (hword : Text.Trimmed item.toList word) :
    parseList item = if word = [] then [] else [String.ofList word] := by
  rw [parseList, splitAtCommas_eq, List.splitOn_eq_singleton hcomma, List.map_singleton,
    ← hword.eq_trim]
  split_ifs with hempty <;> simp [hempty]

/-- Of joined items the first is read by itself, also if it is the only one. -/
theorem parseList_intercalate_cons (item : String) (items : List String) :
    parseList (",".intercalate (item :: items)) =
      parseList item ++ parseList (",".intercalate items) := by
  rcases items with _ | ⟨next, rest⟩
  · rw [String.intercalate_singleton, String.intercalate_nil]
    exact (List.append_nil _).symm
  · rw [String.intercalate_cons_cons, parseList_append_comma]

/-- Items are read as the entries that they are written for. -/
theorem Spells.parseList_eq (h : Spells items entries) :
    parseList (",".intercalate items) = entries := by
  induction h with
  | nil => rfl
  | blank hitem _ ih =>
    rw [parseList_intercalate_cons, parseList_item hitem.no_comma hitem.trimmed, if_pos rfl, ih]
    rfl
  | @entry before entry after items entries hbefore hentry hafter _ ih =>
    have hcomma : ',' ∉ (before ++ entry ++ after).toList := by
      simp [hbefore.no_comma, hentry.no_comma, hafter.no_comma]
    have hne : entry.toList ≠ [] := by
      simpa using hentry.ne_empty
    rw [parseList_intercalate_cons, parseList_item hcomma (hentry.trimmed hbefore hafter),
      if_neg hne, ih, String.ofList_toList]
    rfl

/-! ## Writing -/

theorem Spells.isEntry (h : Spells items entries) : ∀ entry ∈ entries, IsEntry entry := by
  induction h with
  | nil => nofun
  | blank _ _ ih => exact ih
  | entry _ hentry _ _ ih => exact List.forall_mem_cons.mpr ⟨hentry, ih⟩

/-- Entries can be written as they are. -/
theorem spells_self (h : ∀ entry ∈ entries, IsEntry entry) : Spells entries entries := by
  induction entries with
  | nil => exact .nil
  | cons entry entries ih =>
    obtain ⟨hentry, hentries⟩ := List.forall_mem_cons.mp h
    have hempty : IsBlank "" := by decide
    simpa using Spells.entry hempty hentry hempty (ih hentries)

/-- Parts without commas are written for the words that are left when they are trimmed. -/
theorem spells_of_trimmed {parts words : List (List Char)} (hcommas : ∀ part ∈ parts, ',' ∉ part)
    (htrimmed : List.Forall₂ Text.Trimmed parts words) :
    Spells (parts.map String.ofList) ((words.filter (· ≠ [])).map String.ofList) := by
  induction htrimmed with
  | nil => exact .nil
  | @cons part word parts words hword _ ih =>
    obtain ⟨hcomma, hcommas⟩ := List.forall_mem_cons.mp hcommas
    obtain ⟨before, after, hpart, hbefore, hafter⟩ := hword.around
    have hspelt := ih hcommas
    by_cases hempty : word = []
    · -- Nothing is left of the part, so it is blank.
      subst hempty
      have hblank : IsBlank (String.ofList part) := by
        simp only [IsBlank, String.toList_ofList, hpart, List.append_nil, List.mem_append]
        exact fun c hc => hc.elim (hbefore c) (hafter c)
      rw [List.filter_cons_of_neg (by simp)]
      exact .blank hblank hspelt
    · have hentry : IsEntry (String.ofList word) := .of_trimmed hcomma hword hempty
      rw [List.filter_cons_of_pos (by simpa using hempty), List.map_cons, List.map_cons, hpart,
        String.ofList_append, String.ofList_append]
      refine .entry ?_ hentry ?_ hspelt
      · rwa [IsBlank, String.toList_ofList]
      · rwa [IsBlank, String.toList_ofList]

/-- Every text is written for the entries that reading it gives. -/
theorem exists_spells (value : String) :
    ∃ items, Spells items (parseList value) ∧ value = ",".intercalate items := by
  obtain ⟨parts, words, -, hcommas, hvalue, htrimmed, hentries⟩ :=
    saysList_iff.mpr (rfl : parseList value = parseList value)
  refine ⟨parts.map String.ofList, ?_, ?_⟩
  · rw [hentries]
    exact spells_of_trimmed hcommas htrimmed
  · rw [← String.toList_inj, String.toList_intercalate, List.map_map, hvalue]
    simp

/-! ## Reading and writing -/

/-- What is read from a text are entries, which are read again when they are joined by commas. Texts
that are joined by a comma are read one after the other. Items with commas between them are read as
the entries that they are written for, in their order and as often as they occur, whatever blanks
there are around them and in blank items, and every text is written so. -/
theorem lists_read_as_written :
    (∀ value, (∀ entry ∈ parseList value, IsEntry entry) ∧
      parseList (",".intercalate (parseList value)) = parseList value) ∧
    (∀ a b, parseList (a ++ "," ++ b) = parseList a ++ parseList b) ∧
    (∀ items entries, Spells items entries → parseList (",".intercalate items) = entries) ∧
    ∀ value, ∃ items, Spells items (parseList value) ∧ value = ",".intercalate items := by
  refine ⟨fun value => ?_, parseList_append_comma, fun _ _ => Spells.parseList_eq, exists_spells⟩
  obtain ⟨items, hspells, -⟩ := exists_spells value
  have hentries : ∀ entry ∈ parseList value, IsEntry entry := hspells.isEntry
  exact ⟨hentries, (spells_self hentries).parseList_eq⟩

/-- Blanks inside an entry stay, and an entry that comes twice is read twice. -/
theorem padded_read_as_written :
    parseList "\u3000a b\t,, ,x,x\u0085" = ["a b", "x", "x"] ∧
      IsEntry "a b" ∧ parseList "a b,x,x" = ["a b", "x", "x"] := by
  obtain ⟨hread, -, hspells, -⟩ := lists_read_as_written
  have hitems : Spells ["\u3000" ++ "a b" ++ "\t", "", " ", "" ++ "x" ++ "", "" ++ "x" ++ "\u0085"]
      ["a b", "x", "x"] :=
    .entry (by decide) (by decide) (by decide) <| .blank (by decide) <| .blank (by decide) <|
      .entry (by decide) (by decide) (by decide) <|
        .entry (by decide) (by decide) (by decide) .nil
  have hvalue : parseList "\u3000a b\t,, ,x,x\u0085" = ["a b", "x", "x"] := hspells _ _ hitems
  obtain ⟨hentries, hagain⟩ := hread "\u3000a b\t,, ,x,x\u0085"
  rw [hvalue] at hentries hagain
  exact ⟨hvalue, hentries _ List.mem_cons_self, hagain⟩

end Telemetry.Setting
