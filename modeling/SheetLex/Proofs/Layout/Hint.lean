import SheetLex.Proofs.Layout.Ink

/-!
# The first hint of a text

A hint is a hint mark with the digits directly behind it, and it is of use if their value is a line
number (`BeginsWithHint`). Condensing looks for hints line by line, since a hint mark begins a line.
Told without lines, the number that goes with a condensed text is that of the first hint of use in
the text, wherever it stands (`line_condense_eq_some_iff`), and there is no number exactly if the
text has no such hint (`line_condense_eq_none_iff`). In front of a text that does not begin with a
digit, a hint does not show in the condensed form otherwise (`text_condense_hint`).
-/

set_option autoImplicit false

namespace SheetLex

/-- The text begins with a hint that gives the line number: a hint mark, the digits directly behind
it, all of them, and their value is not too large. -/
def BeginsWithHint (t : Text) (n : Nat) : Prop :=
  ∃ digits rest, t = hintMark :: (digits ++ rest) ∧ digits ≠ [] ∧
    (∀ d ∈ digits, d.isDigit = true) ∧ (∀ d, rest.head? = some d → d.isDigit = false) ∧
    Line.digitsValue digits = n ∧ n ≤ greatestLineNumber

/-- No hint of the text gives a line number. -/
def Unhinted (t : Text) : Prop := ∀ x y n, t = x ++ y → ¬ BeginsWithHint y n

/-- The first hint of the text that gives a line number gives this one. -/
def FirstHint (t : Text) (n : Nat) : Prop :=
  ∃ before behind, t = before ++ behind ∧ BeginsWithHint behind n ∧
    ∀ x y m, t = x ++ y → BeginsWithHint y m → before.length ≤ x.length

variable {c : Char} {t : Text} {n : Nat}

/-! ## Hints at the start of a text -/

/-- A run of digits ends where what follows does not begin with one. -/
theorem takeWhile_isDigit_append {digits : Text} (hdigits : ∀ d ∈ digits, d.isDigit = true)
    (ht : ∀ d, t.head? = some d → d.isDigit = false) :
    (digits ++ t).takeWhile Char.isDigit = digits := by
  have hnone : t.takeWhile Char.isDigit = [] := by
    cases t with
    | nil => rfl
    | cons d t => exact List.takeWhile_cons_of_neg (by simp [ht d rfl])
  rw [List.takeWhile_append_of_pos hdigits, hnone, List.append_nil]

/-- A text does not begin with a digit if its first character is none. -/
theorem head?_cons_not_digit (hc : c.isDigit = false) (t : Text) :
    ∀ d, (c :: t).head? = some d → d.isDigit = false := by
  intro d hd
  obtain rfl := Option.some.inj hd
  exact hc

theorem head?_append_not_digit {s : Text} (hs : ∀ d, s.head? = some d → d.isDigit = false)
    (ht : ∀ d, t.head? = some d → d.isDigit = false) :
    ∀ d, (s ++ t).head? = some d → d.isDigit = false := by
  cases s with
  | nil => exact ht
  | cons c s => exact hs

theorem not_beginsWithHint_nil : ¬ BeginsWithHint [] n := by
  rintro ⟨digits, rest, h, -⟩
  cases h

theorem BeginsWithHint.eq_hintMark (h : BeginsWithHint (c :: t) n) : c = hintMark := by
  obtain ⟨digits, rest, h, -⟩ := h
  exact (List.cons.inj h).1

/-- What a line that is introduced by a hint mark gives is what the hint there gives. -/
theorem beginsWithHint_iff : BeginsWithHint (hintMark :: t) n ↔ Line.hint? ⟨true, t⟩ = some n := by
  have hdigits : Line.hintDigits ⟨true, t⟩ = t.takeWhile Char.isDigit := rfl
  rw [Line.hint?, hdigits]
  constructor
  · rintro ⟨digits, rest, h, hne, hall, hrest, rfl, hle⟩
    obtain rfl : t = digits ++ rest := (List.cons.inj h).2
    rw [takeWhile_isDigit_append hall hrest, if_neg (by simpa using hne)]
    exact if_pos hle
  · intro h
    split at h
    · cases h
    · rename_i hne
      simp only at h
      split at h
      · rename_i hle
        obtain rfl := Option.some.inj h
        refine ⟨t.takeWhile Char.isDigit, t.dropWhile Char.isDigit, ?_, by simpa using hne, ?_, ?_,
          rfl, hle⟩
        · rw [List.takeWhile_append_dropWhile]
        · intro d hd
          exact List.mem_takeWhile_imp hd
        · intro d hd
          have hhead := List.head?_dropWhile_not Char.isDigit t
          rw [hd] at hhead
          exact hhead
      · cases h

theorem BeginsWithHint.unique {m : Nat} (h : BeginsWithHint t n) (h' : BeginsWithHint t m) :
    n = m := by
  cases t with
  | nil => exact absurd h not_beginsWithHint_nil
  | cons c t =>
    obtain rfl := h.eq_hintMark
    rw [beginsWithHint_iff] at h h'
    exact Option.some.inj (h.symm.trans h')

/-! ## The first hint -/

theorem firstHint_of_beginsWithHint (h : BeginsWithHint t n) : FirstHint t n :=
  ⟨[], t, rfl, h, fun x _ _ _ _ => Nat.zero_le x.length⟩

/-- There are no two first hints. -/
theorem FirstHint.unique {m : Nat} (h : FirstHint t n) (h' : FirstHint t m) : n = m := by
  obtain ⟨before, behind, ht, hbegins, hfirst⟩ := h
  obtain ⟨before', behind', ht', hbegins', hfirst'⟩ := h'
  have hlength : before.length = before'.length :=
    Nat.le_antisymm (hfirst _ _ _ ht' hbegins') (hfirst' _ _ _ ht hbegins)
  obtain ⟨-, rfl⟩ := List.append_inj (ht.symm.trans ht') hlength
  exact hbegins.unique hbegins'

/-- If a text does not begin with a hint, its hints are those behind its first character. -/
theorem firstHint_cons_iff (h : ∀ m, ¬ BeginsWithHint (c :: t) m) :
    FirstHint (c :: t) n ↔ FirstHint t n := by
  constructor
  · rintro ⟨before, behind, ht, hbegins, hfirst⟩
    rcases List.cons_eq_append_iff.1 ht with ⟨rfl, rfl⟩ | ⟨before, rfl, rfl⟩
    · exact absurd hbegins (h n)
    · refine ⟨before, behind, rfl, hbegins, ?_⟩
      intro x y m hxy hy
      exact Nat.le_of_succ_le_succ (hfirst (c :: x) y m (congrArg (List.cons c) hxy) hy)
  · rintro ⟨before, behind, rfl, hbegins, hfirst⟩
    refine ⟨c :: before, behind, rfl, hbegins, ?_⟩
    intro x y m hxy hy
    rcases List.cons_eq_append_iff.1 hxy with ⟨rfl, rfl⟩ | ⟨x, rfl, hx⟩
    · exact absurd hy (h m)
    · exact Nat.succ_le_succ (hfirst x y m hx hy)

/-! ## Line numbers of condensed texts -/

namespace Line

/-- The digits that the first line begins with are those that the text begins with. -/
theorem takeWhile_isDigit_of_split {marked : Bool} {first : Text} {rest : List Line}
    (h : split marked t = ⟨marked, first⟩ :: rest) :
    first.takeWhile Char.isDigit = t.takeWhile Char.isDigit := by
  induction t generalizing first rest with
  | nil =>
    cases h
    rfl
  | cons c t ih =>
    rw [split] at h
    split at h
    · rename_i hfeed
      cases h
      exact (List.takeWhile_cons_of_neg (by rw [hfeed]; decide)).symm
    · split at h
      · rename_i hmark
        cases h
        exact (List.takeWhile_cons_of_neg (by rw [hmark]; decide)).symm
      · obtain ⟨first', rest', hsplit⟩ := exists_split t
        rw [hsplit] at h
        cases h
        rw [List.takeWhile_cons, List.takeWhile_cons, ih (hsplit marked)]

/-- An unmarked line gives no number. -/
theorem hint?_unmarked (t : Text) : hint? ⟨false, t⟩ = none := rfl

end Line

/-- Behind a hint mark, the line that it introduces is asked first. -/
theorem line_condense_hintMark (t : Text) :
    (condense (hintMark :: t)).line = (Line.hint? ⟨true, t⟩).or (condense t).line := by
  obtain ⟨first, rest, hsplit⟩ := Line.exists_split t
  have hdigits := Line.takeWhile_isDigit_of_split (hsplit true)
  have hfirst : Line.hint? ⟨true, first⟩ = Line.hint? ⟨true, t⟩ := by
    simp only [Line.hint?, Line.hintDigits, if_true, hdigits]
  have hlines : lines (hintMark :: t) = ⟨false, []⟩ :: ⟨true, first⟩ :: rest :=
    congrArg (List.cons _) (hsplit true)
  have hlines' : lines t = ⟨false, first⟩ :: rest := hsplit false
  rw [condense, condense, hlines, hlines', List.findSome?_cons, List.findSome?_cons,
    List.findSome?_cons, Line.hint?_unmarked, Line.hint?_unmarked, hfirst]
  cases Line.hint? ⟨true, t⟩ <;> rfl

/-- Any other character gives no hint. -/
theorem line_condense_cons (h : c ≠ hintMark) (t : Text) :
    (condense (c :: t)).line = (condense t).line := by
  obtain ⟨first, rest, hsplit⟩ := Line.exists_split t
  have hlines' : lines t = ⟨false, first⟩ :: rest := hsplit false
  by_cases hfeed : c = '\n'
  · have hlines : lines (c :: t) = ⟨false, []⟩ :: lines t := by
      rw [lines, Line.split, if_pos hfeed]
      rfl
    rw [condense, condense, hlines, List.findSome?_cons, Line.hint?_unmarked]
  · have hlines : lines (c :: t) = ⟨false, c :: first⟩ :: rest := by
      rw [lines, Line.split, if_neg hfeed, if_neg h, hsplit, Line.consFirst]
    rw [condense, condense, hlines, hlines', List.findSome?_cons, List.findSome?_cons,
      Line.hint?_unmarked, Line.hint?_unmarked]

/-- The line number that goes with a condensed text is that of its first hint. -/
theorem line_condense_eq_some_iff : (condense t).line = some n ↔ FirstHint t n := by
  induction t with
  | nil =>
    constructor
    · intro h
      cases h
    · rintro ⟨before, behind, ht, hbegins, -⟩
      obtain ⟨-, rfl⟩ := List.nil_eq_append_iff.1 ht
      exact absurd hbegins not_beginsWithHint_nil
  | cons c t ih =>
    by_cases hmark : c = hintMark
    · subst hmark
      rw [line_condense_hintMark]
      cases hhint : Line.hint? ⟨true, t⟩ with
      | some m =>
        have hbegins : BeginsWithHint (hintMark :: t) m := beginsWithHint_iff.2 hhint
        rw [Option.some_or, Option.some_inj]
        constructor
        · rintro rfl
          exact firstHint_of_beginsWithHint hbegins
        · intro h
          exact (firstHint_of_beginsWithHint hbegins).unique h
      | none =>
        rw [Option.none_or, ih, firstHint_cons_iff]
        intro m hbegins
        rw [beginsWithHint_iff, hhint] at hbegins
        cases hbegins
    · rw [line_condense_cons hmark, ih, firstHint_cons_iff]
      intro m hbegins
      exact hmark hbegins.eq_hintMark

/-- There is none exactly if the text has no hint that gives a number. -/
theorem line_condense_eq_none_iff : (condense t).line = none ↔ Unhinted t := by
  constructor
  · intro h x y n ht hbegins
    -- of the hints there are one comes first
    induction x generalizing t with
    | nil =>
      rw [List.nil_append] at ht
      rw [line_condense_eq_some_iff.2 (ht ▸ firstHint_of_beginsWithHint hbegins)] at h
      cases h
    | cons c x ih =>
      subst ht
      refine ih ?_ rfl
      by_cases hmark : c = hintMark
      · subst hmark
        rw [List.cons_append, line_condense_hintMark, Option.or_eq_none_iff] at h
        exact h.2
      · rwa [List.cons_append, line_condense_cons hmark] at h
  · intro h
    cases hline : (condense t).line with
    | none => rfl
    | some n =>
      obtain ⟨before, behind, ht, hbegins, -⟩ := line_condense_eq_some_iff.1 hline
      exact absurd hbegins (h before behind n ht)

/-! ## Hints in front of a text -/

namespace Line

/-- Before a line that does not begin with a digit, a hint mark takes nothing away from it. -/
theorem map_content_split {t : Text} (ht : ∀ d, t.head? = some d → d.isDigit = false) :
    (split true t).map content = (split false t).map content := by
  cases t with
  | nil => rfl
  | cons c t =>
    by_cases hfeed : c = '\n'
    · rw [split, split, if_pos hfeed, if_pos hfeed]
      rfl
    by_cases hmark : c = hintMark
    · rw [split, split, if_neg hfeed, if_neg hfeed, if_pos hmark, if_pos hmark]
      rfl
    obtain ⟨first, rest, hsplit⟩ := exists_split t
    have hcontent : content ⟨true, c :: first⟩ = content ⟨false, c :: first⟩ := by
      rw [content_eq_trimBy, content_eq_trimBy, payload_no_digit (ht c rfl), payload_unmarked]
    rw [split, split, if_neg hfeed, if_neg hfeed, if_neg hmark, if_neg hmark, hsplit, hsplit,
      consFirst, consFirst, List.map_cons, List.map_cons, hcontent]

/-- The digits behind a hint mark are no part of the line that it introduces. -/
theorem map_content_split_digits {digits : Text} (hdigits : ∀ d ∈ digits, d.isDigit = true)
    (t : Text) : (split true (digits ++ t)).map content = (split true t).map content := by
  induction digits with
  | nil => rfl
  | cons d digits ih =>
    have hd := hdigits d List.mem_cons_self
    have hfeed : d ≠ '\n' := by
      rintro rfl
      cases hd
    have hmark : d ≠ hintMark := by
      rintro rfl
      cases hd
    obtain ⟨first, rest, hsplit⟩ := exists_split (digits ++ t)
    have ih := ih fun e he => hdigits e (List.mem_cons_of_mem d he)
    rw [hsplit, List.map_cons] at ih
    rw [List.cons_append, split, if_neg hfeed, if_neg hmark, hsplit, consFirst, List.map_cons,
      content_eq_trimBy, payload_digit hd, ← content_eq_trimBy]
    exact ih

end Line

/-- A hint in front of a text does not show in the condensed form, unless the text begins with a
digit. -/
theorem text_condense_hint {digits t : Text} (hdigits : ∀ d ∈ digits, d.isDigit = true)
    (ht : ∀ d, t.head? = some d → d.isDigit = false) :
    (condense (hintMark :: digits ++ t)).text = (condense t).text := by
  have hcontents : contents (hintMark :: digits ++ t) = contents t := by
    have hlines : lines (hintMark :: digits ++ t) = ⟨false, []⟩ :: Line.split true (digits ++ t) :=
      rfl
    rw [contents, contents, hlines, List.map_cons, Line.map_content_split_digits hdigits,
      Line.map_content_split ht]
    rfl
  rw [condense, condense, hcontents]

end SheetLex
