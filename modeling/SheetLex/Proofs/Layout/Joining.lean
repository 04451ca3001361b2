import SheetLex.Proofs.Layout.Gap
import SheetLex.Proofs.Layout.Hint

/-!
# Condensing a text in parts

Condensing distributes over line breaks, wherever they stand (`condense_append_break`). Around a line
feed, the condensed texts are joined by one line feed, or one of them is all there is, and the first
line number counts. A hint between two texts divides them as a line feed does, and its number comes
between theirs: it counts if the text before the hint gives none.
-/

set_option autoImplicit false

namespace SheetLex

variable {digits b : Text}

/-! ## Hints with their digits -/

/-- The line number that a hint with these digits gives: their value, if there are digits and the
value fits in 64 bits. -/
def hintNumber? (digits : Text) : Option Nat :=
  if digits ≠ [] ∧ Nat.ofDigitChars 10 digits 0 ≤ greatestLineNumber then
    some (Nat.ofDigitChars 10 digits 0)
  else none

namespace Line

theorem digitsValue_eq (digits : Text) : digitsValue digits = Nat.ofDigitChars 10 digits 0 := by
  rw [digitsValue, Nat.ofDigitChars_eq_foldl]
  simp only [Nat.mul_comm 10]

theorem hint?_append (hdigits : ∀ d ∈ digits, d.isDigit = true)
    (hb : ∀ d, b.head? = some d → d.isDigit = false) :
    hint? ⟨true, digits ++ b⟩ = hintNumber? digits := by
  have htake : hintDigits ⟨true, digits ++ b⟩ = digits := takeWhile_isDigit_append hdigits hb
  rw [hint?, htake, hintNumber?, digitsValue_eq]
  by_cases hnil : digits = []
  · rw [hnil]
    rfl
  · rw [if_neg (by simpa using hnil)]
    simp only [hnil, ne_eq, not_false_eq_true, true_and]

end Line

/-! ## Texts in two parts -/

theorem contents_append_mark (s t : Text) :
    contents (s ++ hintMark :: t) = contents s ++ contents (hintMark :: t) := by
  -- the line before a hint mark at the start of a text is empty
  have hempty : contents (hintMark :: t) =
      ((Line.split true t).map Line.content).filter fun content => !content.isEmpty := rfl
  rw [hempty, contents, lines, Line.split_append_mark, List.map_append, List.filter_append]
  rfl

/-- Around a hint mark, a text is condensed in two parts, the mark with the one behind it. -/
theorem condense_append_mark (s t : Text) :
    condense (s ++ hintMark :: t) =
      ⟨joinLines (condense s).text (condense (hintMark :: t)).text,
        (condense s).line.or (condense (hintMark :: t)).line⟩ := by
  have htext : (condense (s ++ hintMark :: t)).text =
      joinLines (condense s).text (condense (hintMark :: t)).text := by
    change ['\n'].intercalate (contents (s ++ hintMark :: t)) = _
    rw [contents_append_mark]
    exact intercalate_append (fun _ => ne_nil_of_mem_contents) (fun _ => ne_nil_of_mem_contents)
  have hline : (condense (s ++ hintMark :: t)).line =
      (condense s).line.or (condense (hintMark :: t)).line := by
    change (lines (s ++ hintMark :: t)).findSome? Line.hint? = _
    rw [lines, Line.split_append_mark, List.findSome?_append]
    rfl
  rw [← htext, ← hline]

/-- A hint in front of a text gives the first number. -/
theorem line_condense_hint (hdigits : ∀ d ∈ digits, d.isDigit = true)
    (hb : ∀ d, b.head? = some d → d.isDigit = false) :
    (condense (hintMark :: (digits ++ b))).line = (hintNumber? digits).or (condense b).line := by
  have hdrop : (condense (digits ++ b)).line = (condense b).line := by
    induction digits with
    | nil => rfl
    | cons d digits ih =>
      have hd : d ≠ hintMark := by
        rintro rfl
        exact absurd (hdigits _ List.mem_cons_self) (by decide)
      rw [List.cons_append, line_condense_cons hd]
      exact ih fun e he => hdigits e (List.mem_cons_of_mem d he)
  rw [line_condense_hintMark, Line.hint?_append hdigits hb, hdrop]

/-- Condensing distributes over line breaks. Around a line feed, the condensed texts are joined by a
line feed, or the one that is not empty is all there is, and the line number is that of the first part
that has one. A hint in front of a text that does not begin with a digit divides the text in the same
way; its number, if its digits give one, comes behind the number of the first part and before that of
the second. -/
theorem condense_append_break (a b : Text) :
    condense (a ++ '\n' :: b) =
        ⟨joinLines (condense a).text (condense b).text, (condense a).line.or (condense b).line⟩ ∧
      ∀ digits : Text, (∀ d ∈ digits, d.isDigit = true) →
        (∀ d, b.head? = some d → d.isDigit = false) →
        condense (a ++ hintMark :: digits ++ b) =
          ⟨(condense (a ++ '\n' :: b)).text,
            (condense a).line.or ((hintNumber? digits).or (condense b).line)⟩ := by
  constructor
  · rw [← condense_append_feed, ← line_condense_append_feed]
  · intro digits hdigits hb
    have htext := text_condense_hint hdigits hb
    rw [List.cons_append] at htext
    rw [List.append_assoc, List.cons_append, condense_append_mark, htext,
      line_condense_hint hdigits hb, condense_append_feed]

/-- A hint between a line without a hint and one with a hint of its own. -/
theorem condense_append_break_hint :
    (∀ d ∈ ['1', '2'], d.isDigit = true) ∧
      (∀ d, [' ', hintMark, '5', 'b'].head? = some d → d.isDigit = false) ∧
      condense (['a', ';'] ++ hintMark :: ['1', '2'] ++ [' ', hintMark, '5', 'b']) =
        ⟨['a', '\n', 'b'], some 12⟩ := by
  have hdigits : ∀ d ∈ ['1', '2'], d.isDigit = true := List.all_eq_true.1 rfl
  have hhead : ∀ d, [' ', hintMark, '5', 'b'].head? = some d → d.isDigit = false :=
    head?_cons_not_digit rfl _
  refine ⟨hdigits, hhead, ?_⟩
  rw [(condense_append_break ['a', ';'] [' ', hintMark, '5', 'b']).2 ['1', '2'] hdigits hhead]
  decide

end SheetLex
