import SheetLex.Text.ByteRange

/-!
# Subjects

A `Subject` is a text made ready for matching: the text itself, and its characters for access by
index. A place in it is a byte offset, and a piece of it (`Subject.Contains`) is a range that begins
and ends on boundaries of characters.
-/

set_option autoImplicit false

namespace SheetLex

/-- A text made ready for matching. -/
structure Subject where
  /-- The text itself. -/
  text : Text
  /-- Its characters, for access by index. -/
  chars : Array Char := text.toArray
  chars_eq : chars = text.toArray := by rfl

namespace Subject

/-- Make a text ready for matching. -/
def ofText (text : Text) : Subject := { text }

/-- The number of bytes of the text. -/
def byteLength (s : Subject) : Nat := Text.byteLength s.text

@[ext] theorem ext {s t : Subject} (h : s.text = t.text) : s = t := by
  obtain ⟨text, chars, rfl⟩ := s
  obtain ⟨text', chars', rfl⟩ := t
  cases h
  rfl

/-! ## Places in a subject -/

/-- The byte offset lies on the boundary of a character. -/
def IsBoundary (input : Subject) (pos : Nat) : Prop :=
  ∃ i, Text.charIndex? input.text pos = some i

theorem isBoundary_zero (input : Subject) : input.IsBoundary 0 :=
  ⟨0, Text.charIndex?_append [] input.text⟩

theorem IsBoundary.le_byteLength {input : Subject} {pos : Nat} (h : input.IsBoundary pos) :
    pos ≤ input.byteLength := by
  obtain ⟨i, hi⟩ := h
  rw [← Text.byteLength_take_of_charIndex? hi]
  exact Text.byteLength_take_le i input.text

instance (input : Subject) (pos : Nat) : Decidable (input.IsBoundary pos) :=
  decidable_of_iff ((Text.charIndex? input.text pos).isSome = true) Option.isSome_iff_exists

/-- The range covers a piece of the subject: it begins and ends within the subject, in order, and
on boundaries of characters. -/
structure Contains (input : Subject) (range : ByteRange) : Prop where
  start_le_stop : range.start ≤ range.stop
  isBoundary_start : input.IsBoundary range.start
  isBoundary_stop : input.IsBoundary range.stop

/-- What a subject contains can be read in it. -/
theorem Contains.exists_textIn? {input : Subject} {range : ByteRange} (h : input.Contains range) :
    ∃ text, range.textIn? input.text = some text := by
  obtain ⟨hle, ⟨i, hi⟩, ⟨j, hj⟩⟩ := h
  refine ⟨(input.text.drop i).take (j - i), ?_⟩
  rw [ByteRange.textIn?, Text.byteSlice?, if_pos hle, hi, hj]

/-- A piece of a text lies where what precedes it ends. -/
theorem contains_of_append {input : Subject} {before piece behind : Text}
    (h : before ++ piece ++ behind = input.text) :
    input.Contains ⟨Text.byteLength before, Text.byteLength (before ++ piece)⟩ where
  start_le_stop := by
    rw [Text.byteLength_append]
    exact Nat.le_add_right _ _
  isBoundary_start := by
    refine ⟨before.length, ?_⟩
    rw [← h, List.append_assoc]
    exact Text.charIndex?_append before (piece ++ behind)
  isBoundary_stop := by
    refine ⟨(before ++ piece).length, ?_⟩
    rw [← h]
    exact Text.charIndex?_append (before ++ piece) behind

end Subject

end SheetLex
