import Mathlib.Data.List.Forall2
import Telemetry.Message.Pattern
import Telemetry.Proofs.Text.Trimmed

/-!
# How a pattern reads

A pattern is read character by character. This module says what is read without a reader, by the
quotes and braces of the pattern and by what its placeholders hold.

* `Pattern.Names`: which parameter a placeholder names, if it names one
  (`Pattern.index?_eq_some_iff`).
* `Pattern.Balanced`: how far a placeholder goes. It is read up to the brace that closes it
  (`Pattern.read?_placeholder`), or it is never closed (`Pattern.read?_unclosed`).
* `Pattern.Items`: what is found from left to right, be it quoted or not. Every pattern has items
  (`Pattern.exists_items`).

Main statements: a pattern is read item by item (`Pattern.Items.read?_eq_some_iff`), and it is not
read just if one of its items is malformed (`Pattern.Items.read?_eq_none_iff`).
-/

namespace Telemetry.Pattern

variable {cs digits inside rest read : List Char} {n index inner : Nat} {quoted : Bool} {c : Char}

/-! ## The number of a placeholder -/

/-- A number in decimal: digits, at least one, and any zeros in front. -/
structure Numeral (digits : List Char) (n : Nat) : Prop where
  ne_nil : digits ≠ []
  isDigit : ∀ c ∈ digits, c.isDigit = true
  value : Nat.ofDigitChars 10 digits 0 = n

/-- A placeholder names a parameter by its number. Up to the first comma, and with blanks around it,
there is a number of 64 bits in decimal, with or without a plus sign in front. -/
def Names (inside : List Char) (index : Nat) : Prop :=
  ∃ front back word digits, inside = front ++ back ∧ ',' ∉ front ∧ (∀ c ∈ back.head?, c = ',') ∧
    Text.Trimmed front word ∧ (word = digits ∨ word = '+' :: digits) ∧ Numeral digits index ∧
      index < UInt64.size

/-- Digits are read if they are a numeral and the number is not too large. -/
theorem digits_eq_some_iff :
    (let value := digits.foldl (fun n c => 10 * n + (c.toNat - '0'.toNat)) 0
     if digits ≠ [] ∧ digits.all Char.isDigit ∧ value < UInt64.size then some value else none) =
      some n ↔ Numeral digits n ∧ n < UInt64.size := by
  simp only [← Nat.ofDigitChars_eq_foldl]
  constructor
  · intro h
    split at h
    next hok =>
      cases h
      exact ⟨⟨hok.1, List.all_eq_true.mp hok.2.1, rfl⟩, hok.2.2⟩
    next => cases h
  · rintro ⟨⟨hne, hall, rfl⟩, hlt⟩
    rw [if_pos ⟨hne, List.all_eq_true.mpr hall, hlt⟩]

theorem number?_eq_some_iff : number? cs = some n ↔
    ∃ digits, (cs = digits ∨ cs = '+' :: digits) ∧ Numeral digits n ∧ n < UInt64.size := by
  by_cases hplus : ∃ rest, cs = '+' :: rest
  · obtain ⟨rest, rfl⟩ := hplus
    refine digits_eq_some_iff.trans ⟨fun h => ⟨rest, Or.inr rfl, h⟩, ?_⟩
    rintro ⟨digits, rfl | heq, h⟩
    · -- A plus sign is no digit.
      exact absurd (h.1.isDigit '+' List.mem_cons_self) (by decide)
    · cases heq
      exact h
  · rw [number?]
    · refine digits_eq_some_iff.trans ⟨fun h => ⟨cs, Or.inl rfl, h⟩, ?_⟩
      rintro ⟨digits, rfl | rfl, h⟩
      · exact h
      · exact absurd ⟨digits, rfl⟩ hplus
    · exact fun rest h => hplus ⟨rest, h⟩

theorem index?_eq_some_iff : index? inside = some index ↔ Names inside index := by
  rw [index?, number?_eq_some_iff]
  constructor
  · rintro ⟨digits, hword, hnumeral⟩
    refine ⟨inside.takeWhile (· ≠ ','), inside.dropWhile (· ≠ ','), _, digits,
      List.takeWhile_append_dropWhile.symm, ?_, ?_, Text.trimmed_trim _, hword, hnumeral⟩
    · intro hcomma
      simpa using List.mem_takeWhile_imp hcomma
    · intro c hc
      have hhead := List.head?_dropWhile_not (· ≠ ',') inside
      rw [show (inside.dropWhile (· ≠ ',')).head? = some c from hc] at hhead
      simpa using hhead
  · rintro ⟨front, back, word, digits, rfl, hfront, hback, htrimmed, hword, hnumeral⟩
    have hcut : (front ++ back).takeWhile (· ≠ ',') = front := by
      have hbefore : ∀ c ∈ front, decide (c ≠ ',') = true := by
        intro c hc
        exact decide_eq_true fun hcomma => hfront (hcomma ▸ hc)
      rw [List.takeWhile_append_of_pos hbefore]
      cases back with
      | nil => simp
      | cons c back => simp [hback c rfl]
    rw [hcut, ← htrimmed.eq_trim]
    exact ⟨digits, hword, hnumeral⟩

/-! ## Placeholders -/

/-- With `inner` braces open, `inside` closes them all, and closes none that is not open. -/
structure Balanced (inner : Nat) (inside : List Char) : Prop where
  prefixes : ∀ front, front <+: inside → front.count '}' ≤ inner + front.count '{'
  total : inside.count '}' = inner + inside.count '{'

theorem balanced_nil : Balanced inner [] ↔ inner = 0 := by
  constructor
  · intro h
    simpa using h.total.symm
  · rintro rfl
    exact ⟨fun front h => by simp [List.prefix_nil.mp h], rfl⟩

/-- A character changes the number of braces that are open. -/
theorem balanced_cons {inner' : Nat} (h : inner' + [c].count '}' = inner + [c].count '{') :
    Balanced inner (c :: inside) ↔ Balanced inner' inside := by
  have hcount : ∀ (d : Char) (front : List Char),
      (c :: front).count d = [c].count d + front.count d := by
    intro d front
    rw [← List.count_append, List.singleton_append]
  constructor
  · intro hbalanced
    refine ⟨fun front hfront => ?_, ?_⟩
    · have hprefix := hbalanced.prefixes (c :: front) (List.cons_prefix_cons.mpr ⟨rfl, hfront⟩)
      rw [hcount '}', hcount '{'] at hprefix
      omega
    · have htotal := hbalanced.total
      rw [hcount '}', hcount '{'] at htotal
      omega
  · intro hbalanced
    refine ⟨fun front hfront => ?_, ?_⟩
    · -- A prefix is empty, or it is the character and a prefix of what follows.
      rcases List.prefix_cons_iff.mp hfront with rfl | ⟨later, rfl, hlater⟩
      · exact Nat.zero_le _
      · have hprefix := hbalanced.prefixes later hlater
        rw [hcount '}', hcount '{']
        omega
    · have htotal := hbalanced.total
      rw [hcount '}', hcount '{']
      omega

theorem balanced_open : Balanced inner ('{' :: inside) ↔ Balanced (inner + 1) inside :=
  balanced_cons rfl

theorem balanced_close : Balanced (inner + 1) ('}' :: inside) ↔ Balanced inner inside :=
  balanced_cons rfl

theorem not_balanced_close : ¬ Balanced 0 ('}' :: inside) := by
  intro h
  have hprefix := h.prefixes ['}'] ⟨inside, rfl⟩
  simp at hprefix

theorem balanced_other (hopen : c ≠ '{') (hclose : c ≠ '}') :
    Balanced inner (c :: inside) ↔ Balanced inner inside :=
  balanced_cons (by simp [hopen, hclose])

/-- Without braces there is nothing to close. -/
theorem balanced_of_not_mem (hopen : '{' ∉ inside) (hclose : '}' ∉ inside) : Balanced 0 inside := by
  induction inside with
  | nil => exact balanced_nil.mpr rfl
  | cons c inside ih =>
    rw [List.mem_cons, not_or] at hopen hclose
    exact (balanced_other (Ne.symm hopen.1) (Ne.symm hclose.1)).mpr (ih hopen.2 hclose.2)

/-- A placeholder that is closed is read up to the brace that closes it. -/
theorem read?_placeholder (read : List Char) (h : Balanced inner inside) :
    read? (.placeholder inner read) (inside ++ '}' :: rest) = do
      let index ← index? (read ++ inside)
      let pieces ← read? .plain rest
      return .parameter index :: pieces := by
  induction inside generalizing inner read with
  | nil =>
    obtain rfl := balanced_nil.mp h
    rw [List.append_nil]
    rfl
  | cons c inside ih =>
    by_cases hopen : c = '{'
    · subst hopen
      simpa [read?] using ih (read ++ ['{']) (balanced_open.mp h)
    · by_cases hclose : c = '}'
      · subst hclose
        cases inner with
        | zero =>
          -- The brace would close one that is not open.
          exact absurd h not_balanced_close
        | succ inner => simpa [read?] using ih (read ++ ['}']) (balanced_close.mp h)
      · simpa [read?, hclose] using ih (read ++ [c]) ((balanced_other hopen hclose).mp h)

/-- A placeholder that is never closed cannot be read. -/
theorem read?_unclosed (read : List Char)
    (h : ∀ inside rest, cs = inside ++ '}' :: rest → ¬ Balanced inner inside) :
    read? (.placeholder inner read) cs = none := by
  induction cs generalizing inner read with
  | nil => rfl
  | cons c cs ih =>
    by_cases hopen : c = '{'
    · subst hopen
      rw [read?]
      refine ih _ fun inside rest hcs hinside => ?_
      exact h ('{' :: inside) rest (congrArg _ hcs) (balanced_open.mpr hinside)
    · by_cases hclose : c = '}'
      · subst hclose
        cases inner with
        | zero =>
          -- The brace would close the placeholder.
          exact absurd (balanced_nil.mpr rfl) (h [] cs rfl)
        | succ inner =>
          rw [read?]
          refine ih _ fun inside rest hcs hinside => ?_
          exact h ('}' :: inside) rest (congrArg _ hcs) (balanced_close.mpr hinside)
      · have hread : read? (.placeholder inner read) (c :: cs) =
            read? (.placeholder inner (read ++ [c])) cs := by
          simp [read?, hclose]
        rw [hread]
        refine ih _ fun inside rest hcs hinside => ?_
        exact h (c :: inside) rest (congrArg _ hcs) ((balanced_other hopen hclose).mpr hinside)

/-- A text looks like a pattern if somewhere in it an opening brace is followed by a digit. -/
theorem hasPlaceholder_iff :
    hasPlaceholder cs = true ↔ ∃ c, c.isDigit = true ∧ ['{', c] <:+: cs := by
  fun_induction hasPlaceholder cs with
  | case1 d rest ih =>
    -- The digit follows this brace, or both of them are further on.
    have hinfix : ∀ c, ['{', c] <:+: '{' :: d :: rest ↔ c = d ∨ ['{', c] <:+: d :: rest :=
      fun c => List.infix_cons_iff.trans (or_congr_left (by simp [List.cons_prefix_cons]))
    simp only [Bool.or_eq_true, ih, hinfix, and_or_left, exists_or, exists_eq_right]
  | case2 d rest hother ih =>
    have hinfix : ∀ c, ['{', c] <:+: d :: rest ↔ ['{', c] <:+: rest := by
      refine fun c => List.infix_cons_iff.trans (or_iff_right ?_)
      rintro ⟨later, heq⟩
      cases heq
      exact hother c later rfl rfl
    simp only [ih, hinfix]
  | case3 => simp

/-! ## Reading outside of placeholders -/

/-- Where a reader stands outside of placeholders. -/
def Position.outside (quoted : Bool) : Position := if quoted then .quoted else .plain

theorem read?_pair :
    read? (.outside quoted) ('\'' :: '\'' :: rest) =
      (read? (.outside quoted) rest).map (.literal '\'' :: ·) := by
  cases quoted <;> rfl

theorem read?_toggle (h : rest.head? ≠ some '\'') :
    read? (.outside quoted) ('\'' :: rest) = read? (.outside !quoted) rest := by
  cases rest with
  | nil => cases quoted <;> rfl
  | cons c rest => cases quoted <;> simp_all [Position.outside, read?]

theorem read?_literal (hquote : c ≠ '\'') (hopen : quoted = true ∨ c ≠ '{') :
    read? (.outside quoted) (c :: rest) =
      (read? (.outside quoted) rest).map (.literal c :: ·) := by
  cases quoted with
  | true => simp [Position.outside, read?, hquote]
  | false =>
    have hc : c ≠ '{' := by simpa using hopen
    simp [Position.outside, read?, hquote]

/-! ## Items -/

/-- What a reader finds in a pattern. -/
inductive Item where
  /-- A character that stands for itself. -/
  | literal (c : Char)
  /-- A placeholder, with the text between its braces. -/
  | placeholder (inside : List Char)
  /-- A placeholder that is never closed. -/
  | unclosed

/-- A pattern from a place outside of placeholders on, between single quotes or not, has these
items. -/
inductive Items : Bool → List Char → List Item → Prop where
  | nil {quoted : Bool} : Items quoted [] []
  /-- Two single quotes stand for one. -/
  | pair {quoted : Bool} {rest : List Char} {items : List Item} (later : Items quoted rest items) :
      Items quoted ('\'' :: '\'' :: rest) (.literal '\'' :: items)
  /-- One single quote begins or ends a part that is quoted. -/
  | toggle {quoted : Bool} {rest : List Char} {items : List Item} (single : rest.head? ≠ some '\'')
      (later : Items (!quoted) rest items) : Items quoted ('\'' :: rest) items
  /-- Any other character stands for itself, and so does an opening brace that is quoted. -/
  | literal {quoted : Bool} {c : Char} {rest : List Char} {items : List Item} (hquote : c ≠ '\'')
      (hopen : quoted = true ∨ c ≠ '{') (later : Items quoted rest items) :
      Items quoted (c :: rest) (.literal c :: items)
  /-- A placeholder goes on to the brace that closes it, whatever is quoted inside. -/
  | placeholder {inside rest : List Char} {items : List Item} (closed : Balanced 0 inside)
      (later : Items false rest items) :
      Items false ('{' :: (inside ++ '}' :: rest)) (.placeholder inside :: items)
  /-- Behind a placeholder that is never closed nothing else is found. -/
  | unclosed {cs : List Char}
      (never : ∀ inside rest, cs = inside ++ '}' :: rest → ¬ Balanced 0 inside) :
      Items false ('{' :: cs) [.unclosed]

/-- A single quote is one of two or stands alone. -/
theorem exists_items_quote
    (hpair : ∀ later, rest = '\'' :: later → ∃ items, Items quoted later items)
    (htoggle : ∃ items, Items (!quoted) rest items) :
    ∃ items, Items quoted ('\'' :: rest) items := by
  by_cases hsingle : rest.head? = some '\''
  · obtain ⟨later, rfl⟩ := List.head?_eq_some_iff.mp hsingle
    obtain ⟨items, hitems⟩ := hpair later rfl
    exact ⟨_, .pair hitems⟩
  · obtain ⟨items, hitems⟩ := htoggle
    exact ⟨items, .toggle hsingle hitems⟩

/-- A placeholder is closed or not. -/
theorem exists_items_open
    (hlater : ∀ inside later, rest = inside ++ '}' :: later → ∃ items, Items false later items) :
    ∃ items, Items false ('{' :: rest) items := by
  by_cases hclosed : ∃ inside later, rest = inside ++ '}' :: later ∧ Balanced 0 inside
  · obtain ⟨inside, later, rfl, hinside⟩ := hclosed
    obtain ⟨items, hitems⟩ := hlater inside later rfl
    exact ⟨_, .placeholder hinside hitems⟩
  · refine ⟨_, .unclosed fun inside later heq hinside => ?_⟩
    exact hclosed ⟨inside, later, heq, hinside⟩

/-- Every pattern has items. -/
theorem exists_items (quoted : Bool) (cs : List Char) : ∃ items, Items quoted cs items := by
  -- By induction on the length, since a placeholder is passed over as a whole.
  induction hlength : cs.length using Nat.strong_induction_on generalizing quoted cs with
  | _ length ih =>
    subst hlength
    have hshorter : ∀ quoted later, later.length < cs.length → ∃ items, Items quoted later items :=
      fun quoted later hlt => ih later.length hlt quoted later rfl
    cases cs with
    | nil => exact ⟨[], .nil⟩
    | cons c rest =>
      have hrest := fun quoted => hshorter quoted rest (Nat.lt_succ_self _)
      by_cases hquote : c = '\''
      · subst hquote
        refine exists_items_quote (fun later heq => hshorter quoted later ?_) (hrest _)
        simp only [heq, List.length_cons]
        omega
      · by_cases hopen : quoted = true ∨ c ≠ '{'
        · obtain ⟨items, hitems⟩ := hrest quoted
          exact ⟨_, .literal hquote hopen hitems⟩
        · obtain ⟨rfl, rfl⟩ : quoted = false ∧ c = '{' := by simpa using hopen
          refine exists_items_open fun inside later heq => hshorter false later ?_
          simp only [heq, List.length_cons, List.length_append]
          omega

/-- What an item is read as. A placeholder is read as the place of the parameter that it names. -/
inductive Item.Reads : Item → Piece → Prop where
  | literal (c : Char) : Reads (.literal c) (.literal c)
  | placeholder {inside : List Char} {index : Nat} (names : Names inside index) :
      Reads (.placeholder inside) (.parameter index)

section Reads

variable {items : List Item} {pieces : List Piece}

theorem reads_literal_iff : List.Forall₂ Item.Reads (.literal c :: items) pieces ↔
    ∃ later, List.Forall₂ Item.Reads items later ∧ .literal c :: later = pieces := by
  rw [List.forall₂_cons_left_iff]
  constructor
  · rintro ⟨_, later, ⟨⟩, hlater, rfl⟩
    exact ⟨later, hlater, rfl⟩
  · rintro ⟨later, hlater, rfl⟩
    exact ⟨_, later, .literal c, hlater, rfl⟩

theorem reads_placeholder_iff : List.Forall₂ Item.Reads (.placeholder inside :: items) pieces ↔
    ∃ index, Names inside index ∧
      ∃ later, List.Forall₂ Item.Reads items later ∧ .parameter index :: later = pieces := by
  rw [List.forall₂_cons_left_iff]
  constructor
  · rintro ⟨_, later, hreads, hlater, rfl⟩
    cases hreads with
    | placeholder names => exact ⟨_, names, later, hlater, rfl⟩
  · rintro ⟨index, hnames, later, hlater, rfl⟩
    exact ⟨_, later, .placeholder hnames, hlater, rfl⟩

theorem not_reads_unclosed : ¬ List.Forall₂ Item.Reads (.unclosed :: items) pieces := by
  rw [List.forall₂_cons_left_iff]
  rintro ⟨_, later, ⟨⟩, -⟩

/-- A pattern is read item by item. -/
theorem Items.read?_eq_some_iff (h : Items quoted cs items) :
    read? (.outside quoted) cs = some pieces ↔ List.Forall₂ Item.Reads items pieces := by
  induction h generalizing pieces with
  | @nil quoted =>
    rw [List.forall₂_nil_left_iff]
    cases quoted <;> exact Option.some_inj.trans eq_comm
  | pair later ih =>
    rw [read?_pair, Option.map_eq_some_iff, reads_literal_iff]
    simp only [ih]
  | toggle single later ih => exact read?_toggle single ▸ ih
  | literal hquote hopen later ih =>
    rw [read?_literal hquote hopen, Option.map_eq_some_iff, reads_literal_iff]
    simp only [ih]
  | @placeholder inside rest items closed later ih =>
    show read? (.placeholder 0 []) (inside ++ '}' :: rest) = some pieces ↔ _
    have hplain : ∀ {pieces}, read? .plain rest = some pieces ↔ _ := ih
    simp [read?_placeholder [] closed, reads_placeholder_iff, Option.bind_eq_some_iff,
      index?_eq_some_iff, hplain]
  | @unclosed cs never =>
    show read? (.placeholder 0 []) cs = some pieces ↔ _
    rw [read?_unclosed [] never]
    exact iff_of_false (Option.some_ne_none _).symm not_reads_unclosed

/-- A list of items can be read just if each of them can. -/
theorem exists_reads_iff : (∃ pieces, List.Forall₂ Item.Reads items pieces) ↔
    ∀ item ∈ items, ∃ piece, item.Reads piece := by
  induction items with
  | nil => simp
  | cons item items ih =>
    simp only [List.forall₂_cons_left_iff, List.forall_mem_cons, ← ih]
    constructor
    · rintro ⟨_, piece, later, hpiece, hlater, rfl⟩
      exact ⟨⟨piece, hpiece⟩, later, hlater⟩
    · rintro ⟨⟨piece, hpiece⟩, later, hlater⟩
      exact ⟨_, piece, later, hpiece, hlater, rfl⟩

/-- What keeps a pattern from being read: a placeholder that is never closed, or one that names no
parameter. -/
def Malformed (items : List Item) : Prop :=
  .unclosed ∈ items ∨ ∃ inside, .placeholder inside ∈ items ∧ ∀ index, ¬ Names inside index

theorem malformed_iff : Malformed items ↔ ∃ item ∈ items, ∀ piece, ¬ item.Reads piece := by
  constructor
  · rintro (hunclosed | ⟨inside, hmem, hnames⟩)
    · exact ⟨.unclosed, hunclosed, nofun⟩
    · refine ⟨.placeholder inside, hmem, ?_⟩
      intro piece hreads
      cases hreads with
      | placeholder names => exact hnames _ names
  · rintro ⟨item, hmem, hreads⟩
    cases item with
    | literal c => exact absurd (.literal c) (hreads _)
    | placeholder inside =>
      exact .inr ⟨inside, hmem, fun index names => hreads _ (.placeholder names)⟩
    | unclosed => exact .inl hmem

/-- A pattern is not read just if it is malformed. -/
theorem Items.read?_eq_none_iff (h : Items quoted cs items) :
    read? (.outside quoted) cs = none ↔ Malformed items := by
  rw [malformed_iff, Option.eq_none_iff_forall_ne_some]
  simp only [ne_eq, h.read?_eq_some_iff, ← not_exists, exists_reads_iff, not_forall, exists_prop]

end Reads

end Telemetry.Pattern
