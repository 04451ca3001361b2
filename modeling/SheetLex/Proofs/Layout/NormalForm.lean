import SheetLex.Proofs.Layout.Gap
import Mathlib.Tactic.TFAE

/-!
# Condensed and blank texts

Condensed forms can be told without condensing: a text is the condensed form of some text exactly if
it holds no hint mark and, unless it is empty, each of its lines holds something and neither begins
nor ends with padding (`IsCondensed`). These are also the texts that condensing leaves as they are,
with no line number (`condensed_tfae`).

A text is blank exactly if its condensed form is empty, and this can be told from its characters one
by one: each is padding, a line feed or a hint mark, or a digit of a hint (`blank_tfae`). The condensed
form of a text that is not blank begins with the first character that is none of these
(`exists_first_of_condense`).
-/

set_option autoImplicit false

namespace SheetLex

/-! ## Trimmed texts -/

namespace Text

variable {p : Char → Bool} {t : Text}

/-- A trimmed text begins and ends with characters that stay. -/
theorem trimBy_eq_self_iff :
    trimBy p t = t ↔ (∀ c, t.head? = some c → p c = false) ∧
      ∀ c, t.getLast? = some c → p c = false := by
  constructor
  · intro h
    constructor
    · intro c hc
      -- a first character that goes would make the trimmed text shorter
      obtain ⟨u, rfl⟩ := List.head?_eq_some_iff.1 hc
      rw [Bool.eq_false_iff]
      intro hp
      have hlength := congrArg List.length h
      rw [trimBy_cons hp] at hlength
      obtain ⟨a, b, hu, -, -⟩ := exists_trimBy p u
      have hlength' := congrArg List.length hu
      simp only [List.length_append, List.length_cons] at hlength hlength'
      omega
    · intro c hc
      have hne : t ≠ [] := by
        rintro rfl
        cases hc
      have hrest : List.rdropWhile p (t.dropWhile p) = t := h
      have hlast := List.rdropWhile_last_not p (t.dropWhile p) (by rwa [hrest])
      simp only [hrest] at hlast
      rw [List.getLast?_eq_getLast_of_ne_nil hne] at hc
      obtain rfl := Option.some.inj hc
      exact Bool.eq_false_iff.2 hlast
  · rintro ⟨hhead, hlast⟩
    have hfront : t.dropWhile p = t := by
      cases t with
      | nil => rfl
      | cons c t => exact List.dropWhile_cons_of_neg (by rw [hhead c rfl]; decide)
    change List.rdropWhile p (t.dropWhile p) = t
    rw [hfront, List.rdropWhile_eq_self_iff]
    intro hne
    rw [hlast _ (List.getLast?_eq_getLast_of_ne_nil hne)]
    decide

end Text

/-! ## Lines -/

/-- A line of a condensed text: it holds something, and neither begins nor ends with a space, a tab,
a carriage return or a semicolon. -/
structure IsTight (line : Text) : Prop where
  ne_nil : line ≠ []
  head : ∀ c, line.head? = some c → c ∉ [' ', '\t', '\r', ';']
  last : ∀ c, line.getLast? = some c → c ∉ [' ', '\t', '\r', ';']

theorem Line.isPadding_eq_false_iff {c : Char} :
    isPadding c = false ↔ c ∉ [' ', '\t', '\r', ';'] := by
  simp [isPadding, and_assoc]

/-- A tight line is a content, and the other way round, if no break occurs in it. -/
theorem isContent_iff {u : Text} :
    IsContent u ↔ IsTight u ∧ '\n' ∉ u ∧ hintMark ∉ u := by
  constructor
  · intro h
    obtain ⟨hhead, hlast⟩ := Text.trimBy_eq_self_iff.1 h.trimmed
    exact ⟨⟨h.ne_nil, fun c hc => Line.isPadding_eq_false_iff.1 (hhead c hc),
      fun c hc => Line.isPadding_eq_false_iff.1 (hlast c hc)⟩, h.feed, h.mark⟩
  · rintro ⟨htight, hfeed, hmark⟩
    refine ⟨htight.ne_nil, hfeed, hmark, Text.trimBy_eq_self_iff.2 ⟨?_, ?_⟩⟩
    · exact fun c hc => Line.isPadding_eq_false_iff.2 (htight.head c hc)
    · exact fun c hc => Line.isPadding_eq_false_iff.2 (htight.last c hc)

/-- Without hint marks, the lines of a text are what stands between its line feeds. -/
theorem lines_eq_map_splitOn {t : Text} (h : hintMark ∉ t) :
    lines t = (t.splitOn '\n').map (Line.mk false) := by
  rw [lines]
  induction t with
  | nil => rfl
  | cons c t ih =>
    simp only [List.mem_cons, not_or] at h
    rw [Line.split, List.splitOn_cons_eq_if_modifyHead, ih h.2]
    by_cases hfeed : c = '\n'
    · simp [hfeed]
    · rw [if_neg hfeed, if_neg (Ne.symm h.1), if_neg (by simpa using hfeed)]
      cases t.splitOn '\n' with
      | nil => rfl
      | cons first rest => rfl

theorem not_mem_of_mem_splitOn {t line : Text} (h : hintMark ∉ t) (hline : line ∈ t.splitOn '\n') :
    '\n' ∉ line ∧ hintMark ∉ line := by
  have hmem : Line.mk false line ∈ Line.split false t := by
    change _ ∈ lines t
    rw [lines_eq_map_splitOn h]
    exact List.mem_map_of_mem hline
  have hbreak := Line.not_break_of_mem_split hmem
  exact ⟨fun hc => (hbreak _ hc).1 rfl, fun hc => (hbreak _ hc).2 rfl⟩

/-! ## Condensed texts -/

/-- The text holds no hint mark and is empty, or all its lines are tight. -/
structure IsCondensed (t : Text) : Prop where
  mark : hintMark ∉ t
  lines : t = [] ∨ ∀ line ∈ t.splitOn '\n', IsTight line

/-- Contents of lines, one to a line, are condensed. -/
theorem isCondensed_intercalate {us : List Text} (h : ∀ u ∈ us, IsContent u) :
    IsCondensed (['\n'].intercalate us) where
  mark := (condense_intercalate h).1
  lines := by
    by_cases hnil : us = []
    · exact .inl (by rw [hnil]; rfl)
    · rw [List.splitOn_intercalate '\n' (fun u hu => (h u hu).feed) hnil]
      exact .inr fun u hu => (isContent_iff.1 (h u hu)).1

theorem isCondensed_condense (t : Text) : IsCondensed (condense t).text :=
  isCondensed_intercalate fun _ => isContent_of_mem_contents

/-- A condensed text stays as it is: cut into lines and joined again, it is the same text. -/
theorem condense_of_isCondensed {t : Text} (h : IsCondensed t) : condense t = ⟨t, none⟩ := by
  have htext : (condense t).text = t := by
    rcases h.lines with rfl | hlines
    · rfl
    · have hcontent : ∀ line ∈ t.splitOn '\n', IsContent line := fun line hline =>
        isContent_iff.2 ⟨hlines line hline, not_mem_of_mem_splitOn h.mark hline⟩
      have hjoined := (condense_intercalate hcontent).2
      rwa [List.intercalate_splitOn] at hjoined
  change (⟨(condense t).text, (condense t).line⟩ : Condensed) = _
  rw [htext, line_condense h.mark]

/-- The condensed forms are the texts that condensing leaves as they are, and they are the texts
without hint marks all of whose lines are tight, with the empty text. Condensing a condensed form
changes nothing, whatever hints the text had. -/
theorem condensed_tfae (t : Text) :
    List.TFAE [∃ x, t = (condense x).text, condense t = ⟨t, none⟩, IsCondensed t] ∧
      condense (condense t).text = ⟨(condense t).text, none⟩ := by
  refine ⟨?_, condense_of_isCondensed (isCondensed_condense t)⟩
  tfae_have 1 → 3 := by
    rintro ⟨x, rfl⟩
    exact isCondensed_condense x
  tfae_have 3 → 2 := condense_of_isCondensed
  tfae_have 2 → 1 := by
    intro h
    exact ⟨t, by rw [h]⟩
  tfae_finish

/-- A condensed text of two lines. -/
example : condense ['a', ',', '\n', 'b', ' ', '1'] = ⟨['a', ',', '\n', 'b', ' ', '1'], none⟩ := by
  decide

/-! ## Blank texts -/

/-- The text ends with a hint mark and digits behind it, or with a hint mark. -/
def EndsInHint (x : Text) : Prop :=
  ∃ before digits, x = before ++ hintMark :: digits ∧ ∀ d ∈ digits, d.isDigit = true

theorem hintOpen_append (inHint : Bool) (s t : Text) :
    hintOpen inHint (s ++ t) = hintOpen (hintOpen inHint s) t := by
  induction s generalizing inHint with
  | nil => rfl
  | cons c s ih => exact ih _

theorem hintOpen_concat (inHint : Bool) (t : Text) (c : Char) :
    hintOpen inHint (t ++ [c]) = (hintOpen inHint t && c.isDigit || c == hintMark) :=
  hintOpen_append inHint t [c]

/-- A digit would belong to a hint exactly behind a hint mark and digits. -/
theorem hintOpen_iff {x : Text} : hintOpen false x = true ↔ EndsInHint x := by
  -- induction from the end: the last character is a mark, or a digit of a hint that was open
  induction x using List.reverseRecOn with
  | nil =>
    constructor
    · intro h
      cases h
    · rintro ⟨before, digits, h, -⟩
      simp at h
  | append_singleton x c ih =>
    rw [hintOpen_concat, Bool.or_eq_true, Bool.and_eq_true, beq_iff_eq, ih]
    constructor
    · rintro (⟨⟨before, digits, rfl, hdigits⟩, hc⟩ | rfl)
      · refine ⟨before, digits ++ [c], by simp, ?_⟩
        intro d hd
        rcases List.mem_append.1 hd with hd | hd
        · exact hdigits d hd
        · obtain rfl := List.mem_singleton.1 hd
          exact hc
      · exact ⟨x, [], rfl, fun d hd => absurd hd List.not_mem_nil⟩
    · rintro ⟨before, digits, h, hdigits⟩
      rcases List.eq_nil_or_concat digits with rfl | ⟨digits, d, rfl⟩
      · exact .inr (List.singleton_inj.1 (List.append_inj' h rfl).2)
      · rw [List.concat_eq_append, ← List.cons_append, ← List.append_assoc] at h
        obtain ⟨rfl, hlast⟩ := List.append_inj' h rfl
        obtain rfl := List.singleton_inj.1 hlast
        exact .inl ⟨⟨before, digits, rfl, fun e he => hdigits e (by simp [he])⟩,
          hdigits c (by simp)⟩

/-- A character that stays when the digits of hints are dropped stands in the text outside of
hints. -/
theorem exists_of_withoutHintDigits_eq {inHint : Bool} {t u v : Text} {c : Char}
    (h : withoutHintDigits inHint t = u ++ c :: v) :
    ∃ x y, t = x ++ c :: y ∧ withoutHintDigits inHint x = u ∧
      (c.isDigit = true → hintOpen inHint x = false) := by
  induction t generalizing inHint u with
  | nil => simp [withoutHintDigits] at h
  | cons d t ih =>
    rw [withoutHintDigits] at h
    cases hdigit : inHint && d.isDigit with
    | true =>
      rw [hdigit, if_pos rfl] at h
      obtain ⟨x, y, rfl, hx, hopen⟩ := ih h
      refine ⟨d :: x, y, rfl, ?_, ?_⟩
      · rw [withoutHintDigits, hdigit, if_pos rfl, hx]
      · rwa [hintOpen, hdigit, Bool.true_or]
    | false =>
      rw [hdigit, if_neg Bool.false_ne_true] at h
      rcases List.cons_eq_append_iff.1 h with ⟨rfl, hfirst⟩ | ⟨u, rfl, hrest⟩
      · obtain ⟨rfl, -⟩ := List.cons.inj hfirst
        refine ⟨[], t, rfl, rfl, fun hc => ?_⟩
        rwa [hc, Bool.and_true] at hdigit
      · obtain ⟨x, y, rfl, hx, hopen⟩ := ih hrest
        refine ⟨d :: x, y, rfl, ?_, ?_⟩
        · rw [withoutHintDigits, hdigit, if_neg Bool.false_ne_true, hx]
        · rwa [hintOpen, hdigit, Bool.false_or]

/-- What holds of all characters outside hints holds of every character that is not a digit of a
hint. -/
theorem forall_mem_withoutHintDigits_iff {P : Char → Prop} (inHint : Bool) (t : Text) :
    (∀ c ∈ withoutHintDigits inHint t, P c) ↔
      ∀ x c y, t = x ++ c :: y → P c ∨ c.isDigit = true ∧ hintOpen inHint x = true := by
  constructor
  · rintro h x c y rfl
    by_cases hdropped : c.isDigit = true ∧ hintOpen inHint x = true
    · exact .inr hdropped
    · left
      apply h
      rw [withoutHintDigits_append, withoutHintDigits, if_neg]
      · exact List.mem_append_right _ List.mem_cons_self
      · rwa [Bool.and_eq_true, and_comm]
  · intro h c hc
    obtain ⟨u, v, hsplit⟩ := List.append_of_mem hc
    obtain ⟨x, y, ht, -, hclosed⟩ := exists_of_withoutHintDigits_eq hsplit
    rcases h x c y ht with hP | ⟨hdigit, hopen⟩
    · exact hP
    · rw [hclosed hdigit] at hopen
      cases hopen

theorem isBlankChar_iff {c : Char} :
    isBlankChar c = true ↔ c ∈ [' ', '\t', '\r', '\n', ';', hintMark] := by
  simp only [isBlankChar, Line.isPadding, Bool.or_eq_true, decide_eq_true_eq, beq_iff_eq,
    List.mem_cons, List.not_mem_nil, or_false]
  tauto

/-- A text is blank exactly if its condensed form is empty, and exactly if each of its characters is a
space, a tab, a carriage return, a line feed, a semicolon or a hint mark, or is a digit in the run
directly behind a hint mark. -/
theorem blank_tfae (t : Text) :
    List.TFAE [isBlank t = true, (condense t).text = [],
      ∀ x c y, t = x ++ c :: y →
        c ∈ [' ', '\t', '\r', '\n', ';', hintMark] ∨ c.isDigit = true ∧ EndsInHint x] := by
  tfae_have 1 ↔ 2 := (condense_text_eq_nil_iff t).symm
  tfae_have 1 ↔ 3 := by
    rw [isBlank_iff, forall_mem_withoutHintDigits_iff]
    simp only [isBlankChar_iff, hintOpen_iff]
  tfae_finish

/-- Digits are blank behind a hint mark, and nowhere else. -/
example : isBlank [' ', '\x00', '1', '2', '\n', ';'] = true ∧ isBlank ['1', '\x00'] = false := by
  decide

/-! ## The first character of a condensed text -/

/-- A condensed text does not begin with a blank character. -/
theorem IsCondensed.head {t : Text} {c : Char} (h : IsCondensed t) (hc : t.head? = some c) :
    isBlankChar c = false := by
  obtain ⟨t, rfl⟩ := List.head?_eq_some_iff.1 hc
  have hlines := h.lines.resolve_left (List.cons_ne_nil c t)
  have hmark : c ≠ hintMark := fun hc => h.mark (hc ▸ List.mem_cons_self)
  rw [List.splitOn_cons_eq_if_modifyHead] at hlines
  by_cases hfeed : c = '\n'
  · -- the first line would be empty
    rw [if_pos (by simpa using hfeed)] at hlines
    exact absurd rfl (hlines [] List.mem_cons_self).ne_nil
  · rw [if_neg (by simpa using hfeed)] at hlines
    cases hsplit : t.splitOn '\n' with
    | nil => exact absurd hsplit (List.splitOn_ne_nil '\n' t)
    | cons line rest =>
      rw [hsplit] at hlines
      have hpadding := (hlines (c :: line) List.mem_cons_self).head c rfl
      rw [isBlankChar, Line.isPadding_eq_false_iff.2 hpadding, beq_false_of_ne hfeed,
        beq_false_of_ne hmark]
      rfl

/-- The first character of a condensed text is the first one of the text that is neither blank nor
part of a hint. -/
theorem exists_first_of_condense {t : Text} {c : Char} (h : (condense t).text.head? = some c) :
    isBlankChar c = false ∧ ∃ w z, t = w ++ c :: z ∧ isBlank w = true ∧
      (c.isDigit = true → ¬ EndsInHint w) := by
  have hc : isBlankChar c = false := (isCondensed_condense t).head h
  refine ⟨hc, ?_⟩
  obtain ⟨u, hu⟩ := List.head?_eq_some_iff.1 h
  have hpadding : ∀ d, Line.isPadding d = true → (!isBlankChar d) = false := by
    intro d hd
    rw [isBlankChar, hd]
    rfl
  -- the characters that are not blank are the same in the text and in its condensed form
  have hfilter := filter_condense_text hpadding rfl rfl t
  rw [hu, List.filter_cons_of_pos (by simp [hc]), eq_comm, List.filter_eq_cons_iff] at hfilter
  obtain ⟨before, behind, hsplit, hbefore, -, -⟩ := hfilter
  obtain ⟨w, z, rfl, rfl, hopen⟩ := exists_of_withoutHintDigits_eq hsplit
  refine ⟨w, z, rfl, ?_, ?_⟩
  · rw [isBlank_iff]
    intro d hd
    simpa using hbefore d hd
  · intro hdigit hends
    rw [← hintOpen_iff, hopen hdigit] at hends
    cases hends

end SheetLex
