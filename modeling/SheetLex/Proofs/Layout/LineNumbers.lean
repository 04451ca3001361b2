import SheetLex.Proofs.Layout.Joining
import SheetLex.Proofs.Layout.NormalForm

/-!
# Texts with numbered lines

`numberLines` puts a hint with its number in front of each line of a text. The characters that stood
in the text before are those that belong to no hint, and the hints up to such a character are as many
as the lines (`exists_of_numberLines_eq`, `count_numberLines`). Whatever part of such a text is
condensed, the hints in it come one after the other, so the number that goes with the condensed form
is that of the first line to begin in the part (`IsNumbered.line_condense`).

All of this is by induction over the lines of the text (`line_induction`).
-/

set_option autoImplicit false

namespace SheetLex

variable {l s t u v : Text} {c : Char}

/-! ## Lines -/

/-- The number of the line on which stands what follows the text. -/
def lineNumber (before : Text) : Nat := before.count '\n' + 1

/-- Texts are built from lines: the first one, and further ones, each behind a line feed. -/
theorem line_induction {motive : Text → Prop} (single : ∀ l, '\n' ∉ l → motive l)
    (feed : ∀ s l, '\n' ∉ l → motive s → motive (s ++ '\n' :: l)) (t : Text) : motive t := by
  induction hlength : t.length using Nat.strong_induction_on generalizing t with
  | h n ih =>
    obtain ⟨l, hl, rfl | ⟨s, rfl⟩⟩ := exists_lastLine t
    · exact single t hl
    · apply feed s l hl
      apply ih s.length ?_ s rfl
      rw [← hlength, List.length_append, List.length_cons]
      omega

theorem lineNumber_line (h : '\n' ∉ l) : lineNumber l = 1 := by
  rw [lineNumber, List.count_eq_zero.2 h]

theorem lineNumber_append_feed (h : '\n' ∉ l) (s : Text) :
    lineNumber (s ++ '\n' :: l) = lineNumber s + 1 := by
  rw [lineNumber, lineNumber, List.count_append, List.count_cons_self, List.count_eq_zero.2 h]

theorem length_splitOn_feed (t : Text) : (t.splitOn '\n').length = lineNumber t := by
  induction t using line_induction with
  | single l hl => rw [List.splitOn_eq_singleton hl, lineNumber_line hl, List.length_singleton]
  | feed s l hl ih =>
    rw [List.splitOn_append_cons_self, List.splitOn_eq_singleton hl, lineNumber_append_feed hl, ← ih,
      List.length_append, List.length_singleton]

/-! ## The numbers in front of lines -/

/-- The hint that gives a line number. -/
def lineHint (n : Nat) : Text := hintMark :: Nat.toDigits 10 n

/-- The text with the hints of its lines, counted from `1`. -/
def numberLines (source : Text) : Text :=
  ['\n'].intercalate ((source.splitOn '\n').mapIdx fun i line => lineHint (i + 1) ++ line)

example : numberLines ['a', '\n', '\n', 'b'] =
    ['\x00', '1', 'a', '\n', '\x00', '2', '\n', '\x00', '3', 'b'] := by
  decide

/-- Lines can be numbered if the text has no hints of its own and no line begins with a digit, which
would belong to the hint put in front of it. -/
structure Numberable (source : Text) : Prop where
  mark : hintMark ∉ source
  digit : ∀ line ∈ source.splitOn '\n', ∀ d, line.head? = some d → d.isDigit = false

theorem numberable_iff {source : Text} :
    Numberable source ↔ hintMark ∉ source ∧
      ∀ line ∈ source.splitOn '\n', line.head?.any Char.isDigit = false := by
  simp only [Option.any_eq_false]
  exact ⟨fun h => ⟨h.mark, h.digit⟩, fun h => ⟨h.1, h.2⟩⟩

instance (source : Text) : Decidable (Numberable source) := decidable_of_iff' _ numberable_iff

theorem numberable_append_feed (h : Numberable (s ++ '\n' :: l)) (hl : '\n' ∉ l) :
    Numberable s ∧ hintMark ∉ l ∧ ∀ d, l.head? = some d → d.isDigit = false := by
  obtain ⟨hmark, hdigit⟩ := h
  rw [List.splitOn_append_cons_self, List.splitOn_eq_singleton hl] at hdigit
  simp only [List.mem_append, List.mem_cons, not_or] at hmark
  exact ⟨⟨hmark.1, fun line hline => hdigit line (List.mem_append_left _ hline)⟩, hmark.2.2,
    hdigit l (List.mem_append_right _ (List.mem_singleton.2 rfl))⟩

theorem isDigit_of_mem_digits (n : Nat) : ∀ d ∈ Nat.toDigits 10 n, d.isDigit = true :=
  fun _ => Nat.isDigit_of_mem_toDigits (by decide) (by decide)

theorem hintNumber?_digits (n : Nat) :
    hintNumber? (Nat.toDigits 10 n) = if n ≤ greatestLineNumber then some n else none := by
  simp only [hintNumber?, Nat.ofDigitChars_ten_toDigits, Nat.toDigits_ne_nil, ne_eq,
    not_false_eq_true, true_and]

/-- A hint holds one mark. -/
theorem count_lineHint (n : Nat) : (lineHint n).count hintMark = 1 := by
  have hnone : hintMark ∉ Nat.toDigits 10 n := fun h =>
    absurd (isDigit_of_mem_digits n _ h) (by decide)
  rw [lineHint, List.count_cons_self, List.count_eq_zero.2 hnone]

theorem EndsInHint.append_left (h : EndsInHint t) (s : Text) : EndsInHint (s ++ t) := by
  obtain ⟨before, digits, rfl, hdigits⟩ := h
  exact ⟨s ++ before, digits, (List.append_assoc s before _).symm, hdigits⟩

theorem numberLines_line (h : '\n' ∉ l) : numberLines l = lineHint 1 ++ l := by
  rw [numberLines, List.splitOn_eq_singleton h]
  exact List.intercalate_singleton

/-- A further line brings a hint with the next number. -/
theorem numberLines_append_feed (h : '\n' ∉ l) (s : Text) :
    numberLines (s ++ '\n' :: l) =
      numberLines s ++ '\n' :: (lineHint (lineNumber s + 1) ++ l) := by
  -- no line is empty with its hint, so the last one is joined to those before it by a line feed
  have hne : ∀ t ∈ (s.splitOn '\n').mapIdx fun i line => lineHint (i + 1) ++ line, t ≠ [] := by
    intro t ht
    obtain ⟨i, -, rfl⟩ := List.mem_mapIdx.1 ht
    exact List.cons_ne_nil _ _
  have hlast : lineHint (lineNumber s + 1) ++ l ≠ [] := List.cons_ne_nil _ _
  have hs : numberLines s ≠ [] := by
    apply intercalate_ne_nil hne
    simp [List.splitOn_ne_nil]
  rw [numberLines, List.splitOn_append_cons_self, List.splitOn_eq_singleton h, List.mapIdx_append,
    List.mapIdx_singleton, length_splitOn_feed, Nat.zero_add,
    intercalate_append hne fun t ht => List.mem_singleton.1 ht ▸ hlast, List.intercalate_singleton,
    ← numberLines, joinLines, if_neg hs, if_neg hlast]

/-- There are as many hints as lines. -/
theorem count_numberLines (h : hintMark ∉ s) :
    (numberLines s).count hintMark = lineNumber s := by
  induction s using line_induction with
  | single l hl =>
    rw [numberLines_line hl, lineNumber_line hl, List.count_append, count_lineHint,
      List.count_eq_zero.2 h]
  | feed s l hl ih =>
    simp only [List.mem_append, List.mem_cons, not_or] at h
    rw [numberLines_append_feed hl, lineNumber_append_feed hl, List.count_append, ih h.1,
      List.count_cons_of_ne (by decide), List.count_append, count_lineHint,
      List.count_eq_zero.2 h.2.2]

/-! ## Characters of a numbered text -/

/-- A character of two texts in a row belongs to the one or to the other. -/
theorem append_eq_append_cons_cases (h : s ++ t = u ++ c :: v) :
    (∃ a, s = u ++ c :: a ∧ v = a ++ t) ∨ ∃ a, u = s ++ a ∧ t = a ++ c :: v := by
  rcases List.append_eq_append_iff.1 h with ⟨a, hu, ht⟩ | ⟨a, hs, hv⟩
  · exact .inr ⟨a, hu, ht⟩
  · rcases List.cons_eq_append_iff.1 hv with ⟨rfl, rfl⟩ | ⟨a, rfl, rfl⟩
    · exact .inr ⟨[], by rw [hs, List.append_nil, List.append_nil], rfl⟩
    · exact .inl ⟨a, hs, rfl⟩

/-- A character of a line with its hint: the mark, a digit of the hint, or one of the line. -/
theorem lineHint_append_cases {n : Nat} (h : lineHint n ++ l = u ++ c :: v) :
    (c = hintMark ∧ u = [] ∧ v = Nat.toDigits 10 n ++ l) ∨ (c.isDigit = true ∧ EndsInHint u) ∨
      ∃ a, u = lineHint n ++ a ∧ l = a ++ c :: v := by
  rcases append_eq_append_cons_cases h with ⟨a, hhint, rfl⟩ | ⟨a, rfl, hl⟩
  · rcases List.cons_eq_append_iff.1 hhint with ⟨rfl, hmark⟩ | ⟨digits, rfl, hdigits⟩
    · obtain ⟨rfl, rfl⟩ := List.cons.inj hmark
      exact .inl ⟨rfl, rfl, rfl⟩
    · have hall := isDigit_of_mem_digits n
      rw [hdigits] at hall
      exact .inr (.inl ⟨hall c (by simp), [], digits, rfl,
        fun d hd => hall d (List.mem_append_left _ hd)⟩)
  · exact .inr (.inr ⟨a, rfl, hl⟩)

/-- A character of a text with a further line: it stands before the line, is the line feed, or
belongs to the line with its hint. -/
theorem numberLines_append_feed_cases (hl : '\n' ∉ l)
    (h : numberLines (s ++ '\n' :: l) = u ++ c :: v) :
    (∃ a, numberLines s = u ++ c :: a ∧ v = a ++ '\n' :: (lineHint (lineNumber s + 1) ++ l)) ∨
      (c = '\n' ∧ u = numberLines s) ∨
      ∃ a, u = numberLines s ++ '\n' :: a ∧ lineHint (lineNumber s + 1) ++ l = a ++ c :: v := by
  rw [numberLines_append_feed hl] at h
  rcases append_eq_append_cons_cases h with hbefore | ⟨a, rfl, htail⟩
  · exact .inl hbefore
  · rcases List.cons_eq_append_iff.1 htail with ⟨rfl, hfeed⟩ | ⟨a, rfl, hline⟩
    · exact .inr (.inl ⟨(List.cons.inj hfeed).1, List.append_nil _⟩)
    · exact .inr (.inr ⟨a, rfl, hline⟩)

/-- A character that belongs to no hint comes from the text, and what stands before it are the lines
before it, numbered. -/
theorem exists_of_numberLines_eq (h : numberLines s = u ++ c :: v) (hc : c ≠ hintMark)
    (hdigit : c.isDigit = true → ¬ EndsInHint u) :
    ∃ x y, s = x ++ c :: y ∧ numberLines x = u := by
  induction s using line_induction generalizing u v with
  | single l hl =>
    rw [numberLines_line hl] at h
    rcases lineHint_append_cases h with ⟨hmark, -⟩ | ⟨hc', hends⟩ | ⟨a, rfl, rfl⟩
    · exact absurd hmark hc
    · exact absurd hends (hdigit hc')
    · have ha : '\n' ∉ a := fun hmem => hl (List.mem_append_left _ hmem)
      exact ⟨a, v, rfl, numberLines_line ha⟩
  | feed s l hl ih =>
    rcases numberLines_append_feed_cases hl h with ⟨a, hbefore, -⟩ | ⟨rfl, rfl⟩ | ⟨a, rfl, hline⟩
    · obtain ⟨x, y, rfl, hx⟩ := ih hbefore hdigit
      exact ⟨x, y ++ '\n' :: l, by simp, hx⟩
    · exact ⟨s, l, rfl, rfl⟩
    · rcases lineHint_append_cases hline with ⟨hmark, -⟩ | ⟨hc', hends⟩ | ⟨b, rfl, rfl⟩
      · exact absurd hmark hc
      · have hends := hends.append_left (numberLines s ++ ['\n'])
        rw [List.append_assoc, List.singleton_append] at hends
        exact absurd hends (hdigit hc')
      · have hb : '\n' ∉ b := fun hmem => hl (List.mem_append_left _ hmem)
        exact ⟨s ++ '\n' :: b, v, by simp, numberLines_append_feed hb s⟩

/-- Behind a hint mark stand the digits of the next number, and no digits behind them. -/
theorem exists_digits_of_numberLines_eq (hs : Numberable s) (h : numberLines s = u ++ hintMark :: v) :
    ∃ y, v = Nat.toDigits 10 (u.count hintMark + 1) ++ y ∧
      ∀ d, y.head? = some d → d.isDigit = false := by
  induction s using line_induction generalizing u v with
  | single l hl =>
    rw [numberLines_line hl] at h
    rcases lineHint_append_cases h with ⟨-, rfl, rfl⟩ | ⟨hdigit, -⟩ | ⟨a, -, rfl⟩
    · exact ⟨l, rfl, hs.digit l (by simp [List.splitOn_eq_singleton hl])⟩
    · exact absurd hdigit (by decide)
    · exact absurd (List.mem_append_right a List.mem_cons_self) hs.mark
  | feed s l hl ih =>
    obtain ⟨hfront, hmark, hlast⟩ := numberable_append_feed hs hl
    rcases numberLines_append_feed_cases hl h with ⟨a, hbefore, rfl⟩ | ⟨hc, -⟩ | ⟨a, rfl, hline⟩
    · obtain ⟨y, rfl, hy⟩ := ih hfront hbefore
      exact ⟨_, List.append_assoc _ y _, head?_append_not_digit hy (head?_cons_not_digit rfl _)⟩
    · exact absurd hc (by decide)
    · rcases lineHint_append_cases hline with ⟨-, rfl, rfl⟩ | ⟨hdigit, -⟩ | ⟨b, -, rfl⟩
      · refine ⟨l, ?_, hlast⟩
        rw [List.count_append, count_numberLines hfront.mark]
        rfl
      · exact absurd hdigit (by decide)
      · exact absurd (List.mem_append_right b List.mem_cons_self) hmark

/-! ## Parts of a numbered text -/

/-- A text with its lines numbered, with or without a line feed behind the last of them. -/
structure IsNumbered (source numbered : Text) : Prop where
  numberable : Numberable source
  eq : numbered = numberLines source ∨ numbered = numberLines source ++ ['\n']

namespace IsNumbered

variable {source start part rest : Text}

theorem exists_digits (h : IsNumbered source (u ++ hintMark :: v)) :
    ∃ y, v = Nat.toDigits 10 (u.count hintMark + 1) ++ y ∧
      ∀ d, y.head? = some d → d.isDigit = false := by
  rcases h.eq with heq | heq
  · exact exists_digits_of_numberLines_eq h.numberable heq.symm
  · rcases append_eq_append_cons_cases heq.symm with ⟨a, ha, rfl⟩ | ⟨a, -, ha⟩
    · obtain ⟨y, rfl, hy⟩ := exists_digits_of_numberLines_eq h.numberable ha
      exact ⟨y ++ ['\n'], List.append_assoc _ y _,
        head?_append_not_digit hy (head?_cons_not_digit rfl _)⟩
    · have hmem : hintMark ∈ ['\n'] := ha ▸ List.mem_append_right a List.mem_cons_self
      exact absurd hmem (by decide)

theorem exists_char (h : IsNumbered source (u ++ c :: v)) (hc : c ≠ hintMark) (hfeed : c ≠ '\n')
    (hdigit : c.isDigit = true → ¬ EndsInHint u) :
    ∃ x y, source = x ++ c :: y ∧ numberLines x = u := by
  rcases h.eq with heq | heq
  · exact exists_of_numberLines_eq heq.symm hc hdigit
  · rcases append_eq_append_cons_cases heq.symm with ⟨a, ha, -⟩ | ⟨a, -, ha⟩
    · exact exists_of_numberLines_eq ha hc hdigit
    · have hmem : c ∈ ['\n'] := ha ▸ List.mem_append_right a List.mem_cons_self
      exact absurd (List.mem_singleton.1 hmem) hfeed

/-- In a part that a hint does not go beyond, the digits behind the first hint mark are those of the
next number. -/
theorem exists_digits_part (h : IsNumbered source (start ++ (u ++ hintMark :: v) ++ rest))
    (hu : hintMark ∉ u)
    (hrest : EndsInHint (u ++ hintMark :: v) → ∀ d, rest.head? = some d → d.isDigit = false) :
    ∃ y, v = Nat.toDigits 10 (start.count hintMark + 1) ++ y ∧
      ∀ d, y.head? = some d → d.isDigit = false := by
  have hsplit : start ++ (u ++ hintMark :: v) ++ rest = (start ++ u) ++ hintMark :: (v ++ rest) := by
    simp
  obtain ⟨y, hv, hy⟩ := exists_digits (hsplit ▸ h)
  rw [List.count_append, List.count_eq_zero.2 hu, Nat.add_zero] at hv
  rcases List.append_eq_append_iff.1 hv with ⟨a, ha, hrest'⟩ | ⟨a, ha, rfl⟩
  · -- the part does not end within the digits
    cases a with
    | nil => exact ⟨[], by rw [ha, List.append_nil, List.append_nil], fun d hd => by cases hd⟩
    | cons d a =>
      have hall := isDigit_of_mem_digits (start.count hintMark + 1)
      rw [ha] at hall
      have hends : EndsInHint (u ++ hintMark :: v) :=
        ⟨u, v, rfl, fun e he => hall e (List.mem_append_left _ he)⟩
      have hd := hrest hends d (by rw [hrest']; rfl)
      rw [hall d (by simp)] at hd
      cases hd
  · refine ⟨a, ha, ?_⟩
    intro d hd
    apply hy d
    rw [List.head?_append, hd]
    rfl

/-- The first hint in a part gives the next number, if that is not too large, and the hints behind it
are asked otherwise. -/
theorem exists_first_hint (h : IsNumbered source (start ++ part ++ rest)) (hmark : hintMark ∈ part)
    (hrest : EndsInHint part → ∀ d, rest.head? = some d → d.isDigit = false) :
    ∃ before y, part = before ++ y ∧ before.count hintMark = 1 ∧
      (condense part).line =
        (if start.count hintMark + 1 ≤ greatestLineNumber then some (start.count hintMark + 1)
          else none).or (condense y).line := by
  obtain ⟨u, v, rfl, hu⟩ := List.eq_append_cons_of_mem hmark
  obtain ⟨y, rfl, hy⟩ := h.exists_digits_part hu hrest
  refine ⟨u ++ lineHint (start.count hintMark + 1), y, by simp [lineHint], ?_, ?_⟩
  · rw [List.count_append, count_lineHint, List.count_eq_zero.2 hu]
  · rw [condense_append_mark, SheetLex.line_condense hu, Option.none_or,
      line_condense_hint (isDigit_of_mem_digits _) hy, hintNumber?_digits]

/-- The line number that goes with a part of a numbered text is that of the first line to begin in
it. -/
theorem line_condense (h : IsNumbered source (start ++ part ++ rest))
    (hrest : EndsInHint part → ∀ d, rest.head? = some d → d.isDigit = false) :
    (condense part).line =
      if hintMark ∈ part ∧ start.count hintMark + 1 ≤ greatestLineNumber then
        some (start.count hintMark + 1)
      else none := by
  induction hlength : part.length using Nat.strong_induction_on generalizing start part with
  | h n ih =>
    by_cases hmark : hintMark ∈ part
    · obtain ⟨before, y, rfl, hcount, hline⟩ := h.exists_first_hint hmark hrest
      rw [hline]
      by_cases hle : start.count hintMark + 1 ≤ greatestLineNumber
      · rw [if_pos hle, if_pos ⟨hmark, hle⟩]
        rfl
      · -- the number is too large for a hint, and those further on are larger still
        have hbehind : IsNumbered source ((start ++ before) ++ y ++ rest) := by
          rwa [List.append_assoc start before y]
        have hcount' : (start ++ before).count hintMark = start.count hintMark + 1 := by
          rw [List.count_append, hcount]
        have hshorter : y.length < n := by
          have hpos : before.count hintMark ≤ before.length := List.count_le_length
          rw [← hlength, List.length_append]
          omega
        have hnone := ih y.length hshorter hbehind (fun hends => hrest (hends.append_left before)) rfl
        rw [hcount', if_neg fun hmem => by omega] at hnone
        rw [if_neg hle, if_neg fun hmem => hle hmem.2, hnone]
        rfl
    · rw [SheetLex.line_condense hmark, if_neg fun hmem => hmark hmem.1]

end IsNumbered

end SheetLex
