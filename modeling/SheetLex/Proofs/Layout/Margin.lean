import SheetLex.Proofs.Layout.Ink
import Mathlib.Data.List.DropRight

/-!
# Blank characters at the ends of a text

Padding and line feeds at either end of a text do not show in its condensed form, and neither do
they change the line number that its hints give (`condense_append_left`,
`condense_append_right`). A hint mark is different: put in front of a text, it makes a hint of the
digits that the text begins with.

Both facts go back to how the lines of a text change with a character put in front of it or
behind it (`Line.exists_split_concat`).
-/

set_option autoImplicit false

namespace SheetLex

/-! ## Trimming -/

namespace Text

variable {p : Char → Bool} {c : Char}

theorem trimBy_cons (h : p c = true) (t : Text) : trimBy p (c :: t) = trimBy p t := by
  rw [trimBy, trimBy, List.dropWhile_cons_of_pos h]

theorem trimBy_concat (h : p c = true) (t : Text) : trimBy p (t ++ [c]) = trimBy p t := by
  change List.rdropWhile p ((t ++ [c]).dropWhile p) = List.rdropWhile p (t.dropWhile p)
  rw [List.dropWhile_append]
  split
  · -- nothing is left of the text, so the character goes as well
    rename_i hnil
    rw [List.isEmpty_iff.1 hnil, List.dropWhile_cons_of_pos h]
    rfl
  · exact List.rdropWhile_concat_pos p _ c h

end Text

/-! ## Lines -/

namespace Line

theorem isDigit_of_isPadding {c : Char} (h : isPadding c = true) : c.isDigit = false := by
  rcases isPadding_cases h with rfl | rfl | rfl | rfl <;> rfl

/-- A break cuts a text into two that have their lines apart. Behind a hint mark the line is marked,
behind a line feed it is not. -/
theorem split_append_of_break {d : Char} (hd : d = '\n' ∨ d = hintMark) (marked : Bool)
    (s t : Text) : split marked (s ++ d :: t) = split marked s ++ split (d == hintMark) t := by
  induction s generalizing marked with
  | nil => rcases hd with rfl | rfl <;> rfl
  | cons c s ih =>
    obtain ⟨first, rest, hsplit⟩ := exists_split s
    rw [List.cons_append, split, split, ih, ih, ih]
    split
    · rfl
    · split
      · rfl
      · rw [hsplit marked]
        rfl

theorem split_append_feed (marked : Bool) (s t : Text) :
    split marked (s ++ '\n' :: t) = split marked s ++ split false t :=
  split_append_of_break (.inl rfl) marked s t

theorem split_append_mark (marked : Bool) (s t : Text) :
    split marked (s ++ hintMark :: t) = split marked s ++ split true t :=
  split_append_of_break (.inr rfl) marked s t

/-- A character other than a break goes to the end of the last line. -/
theorem exists_split_concat (marked : Bool) (t : Text) :
    ∃ front last, split marked t = front ++ [last] ∧
      ∀ c, c ≠ '\n' → c ≠ hintMark →
        split marked (t ++ [c]) = front ++ [{ last with text := last.text ++ [c] }] := by
  induction t generalizing marked with
  | nil =>
    refine ⟨[], ⟨marked, []⟩, rfl, ?_⟩
    intro c hfeed hmark
    simp [split, hfeed, hmark, consFirst]
  | cons d t ih =>
    by_cases hd : d = '\n'
    · obtain ⟨front, last, hsplit, hconcat⟩ := ih false
      refine ⟨⟨marked, []⟩ :: front, last, ?_, ?_⟩
      · rw [split, if_pos hd, hsplit]
        rfl
      · intro c hfeed hmark
        rw [List.cons_append, split, if_pos hd, hconcat c hfeed hmark]
        rfl
    by_cases hd' : d = hintMark
    · obtain ⟨front, last, hsplit, hconcat⟩ := ih true
      refine ⟨⟨marked, []⟩ :: front, last, ?_, ?_⟩
      · rw [split, if_neg hd, if_pos hd', hsplit]
        rfl
      · intro c hfeed hmark
        rw [List.cons_append, split, if_neg hd, if_pos hd', hconcat c hfeed hmark]
        rfl
    -- the first character joins the first line, which may be the last one as well
    obtain ⟨front, last, hsplit, hconcat⟩ := ih marked
    cases front with
    | nil =>
      refine ⟨[], { last with text := d :: last.text }, ?_, ?_⟩
      · rw [split, if_neg hd, if_neg hd', hsplit]
        rfl
      · intro c hfeed hmark
        rw [List.cons_append, split, if_neg hd, if_neg hd', hconcat c hfeed hmark]
        rfl
    | cons first front =>
      refine ⟨{ first with text := d :: first.text } :: front, last, ?_, ?_⟩
      · rw [split, if_neg hd, if_neg hd', hsplit]
        rfl
      · intro c hfeed hmark
        rw [List.cons_append, split, if_neg hd, if_neg hd', hconcat c hfeed hmark]
        rfl

/-- Padding behind a line belongs to no hint. -/
theorem hintDigits_concat {c : Char} (h : isPadding c = true) (line : Line) :
    hintDigits { line with text := line.text ++ [c] } = line.hintDigits := by
  rw [hintDigits, hintDigits]
  split
  · have hnone : [c].takeWhile Char.isDigit = [] :=
      List.takeWhile_cons_of_neg (by rw [isDigit_of_isPadding h]; decide)
    rw [List.takeWhile_append, hnone, List.append_nil]
    split
    · rename_i hall
      exact (List.takeWhile_prefix Char.isDigit).eq_of_length hall |>.symm
    · rfl
  · rfl

theorem length_hintDigits_le (line : Line) : line.hintDigits.length ≤ line.text.length := by
  rw [hintDigits]
  split
  · exact (List.takeWhile_prefix Char.isDigit).length_le
  · exact Nat.zero_le _

/-- Padding behind a line changes neither what the line holds nor its hint. -/
theorem content_concat {c : Char} (h : isPadding c = true) (line : Line) :
    content { line with text := line.text ++ [c] } = line.content := by
  rw [content, hintDigits_concat h, List.drop_append_of_le_length line.length_hintDigits_le]
  exact Text.trimBy_concat h _

theorem hint?_concat {c : Char} (h : isPadding c = true) (line : Line) :
    hint? { line with text := line.text ++ [c] } = line.hint? := by
  rw [hint?, hint?, hintDigits_concat h]

end Line

/-! ## Condensed texts -/

/-- Two texts have the same condensed form if their lines hold the same, empty ones apart, and
the first hints are the same. -/
theorem condense_congr {s t : Text} (htext : contents s = contents t)
    (hline : (lines s).findSome? Line.hint? = (lines t).findSome? Line.hint?) :
    condense s = condense t := by
  rw [condense, condense, htext, hline]

theorem contents_append_feed (s t : Text) : contents (s ++ '\n' :: t) = contents s ++ contents t := by
  rw [contents, lines, Line.split_append_feed, List.map_append, List.filter_append]
  rfl

theorem isBlank_append_feed (s t : Text) :
    isBlank (s ++ '\n' :: t) = (isBlank s && isBlank t) := by
  rw [isBlank, lines, Line.split_append_feed, List.all_append]
  rfl

/-- A blank character, but not a hint mark. -/
def isMargin (c : Char) : Bool := Line.isPadding c || c == '\n'

theorem isMargin_cases {c : Char} (h : isMargin c = true) : Line.isPadding c = true ∨ c = '\n' := by
  simpa [isMargin] using h

theorem Line.not_break_of_isPadding {c : Char} (h : isPadding c = true) :
    c ≠ '\n' ∧ c ≠ hintMark := by
  rcases isPadding_cases h with rfl | rfl | rfl | rfl <;> decide

theorem condense_cons {c : Char} (h : isMargin c = true) (t : Text) :
    condense (c :: t) = condense t := by
  rcases isMargin_cases h with h | rfl
  · -- padding goes to the front of the first line, which no hint mark introduces
    obtain ⟨hfeed, hmark⟩ := Line.not_break_of_isPadding h
    obtain ⟨first, rest, hsplit⟩ := Line.exists_split t
    have hlines : lines t = ⟨false, first⟩ :: rest := hsplit false
    have hcons : lines (c :: t) = ⟨false, c :: first⟩ :: rest := by
      rw [lines, Line.split, if_neg hfeed, if_neg hmark, hsplit]
      rfl
    have hcontent : Line.content ⟨false, c :: first⟩ = Line.content ⟨false, first⟩ :=
      Text.trimBy_cons h first
    apply condense_congr
    · rw [contents, contents, hlines, hcons, List.map_cons, List.map_cons, hcontent]
    · rw [hlines, hcons]
      rfl
  · -- a line feed puts an empty line in front
    exact condense_congr rfl rfl

theorem condense_concat {c : Char} (h : isMargin c = true) (t : Text) :
    condense (t ++ [c]) = condense t := by
  rcases isMargin_cases h with h | rfl
  · obtain ⟨hfeed, hmark⟩ := Line.not_break_of_isPadding h
    obtain ⟨front, last, hsplit, hconcat⟩ := Line.exists_split_concat false t
    have hlines : lines t = front ++ [last] := hsplit
    have hcons : lines (t ++ [c]) = front ++ [{ last with text := last.text ++ [c] }] :=
      hconcat c hfeed hmark
    apply condense_congr
    · rw [contents, contents, hlines, hcons, List.map_append, List.map_append, List.map_singleton,
        List.map_singleton, Line.content_concat h]
    · rw [hlines, hcons, List.findSome?_append, List.findSome?_append, List.findSome?_singleton,
        List.findSome?_singleton, Line.hint?_concat h]
  · have hlines : lines (t ++ ['\n']) = lines t ++ [⟨false, []⟩] :=
      Line.split_append_feed false t []
    apply condense_congr
    · rw [contents_append_feed]
      exact List.append_nil _
    · rw [hlines, List.findSome?_append]
      exact Option.or_none

/-- Blank characters in front of a text do not show in its condensed form. -/
theorem condense_append_left {w : Text} (h : ∀ c ∈ w, isMargin c = true) (t : Text) :
    condense (w ++ t) = condense t := by
  induction w with
  | nil => rfl
  | cons c w ih =>
    rw [List.cons_append, condense_cons (h c List.mem_cons_self)]
    exact ih fun d hd => h d (List.mem_cons_of_mem c hd)

/-- Nor do blank characters behind it. -/
theorem condense_append_right {w : Text} (h : ∀ c ∈ w, isMargin c = true) (t : Text) :
    condense (t ++ w) = condense t := by
  induction w using List.reverseRecOn with
  | nil => rw [List.append_nil]
  | append_singleton w c ih =>
    rw [← List.append_assoc, condense_concat (h c (by simp))]
    exact ih fun d hd => h d (List.mem_append_left _ hd)

/-- Whether a text is blank can be seen from its condensed form. -/
theorem isBlank_congr {s t : Text} (h : condense s = condense t) : isBlank s = isBlank t := by
  rw [← condense_isEmpty, ← condense_isEmpty, h]

theorem isBlank_of_isMargin {w : Text} (h : ∀ c ∈ w, isMargin c = true) : isBlank w = true := by
  have hcondense := condense_append_right h []
  exact isBlank_congr hcondense

end SheetLex
