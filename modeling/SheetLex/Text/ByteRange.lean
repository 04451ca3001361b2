import SheetLex.Text.Basic

/-!
# Byte ranges

The place of a piece of text: a range of byte offsets. It holds no text itself; `ByteRange.textIn?`
reads what it covers in a text.
-/

set_option autoImplicit false

namespace SheetLex

/-- The bytes from `start` up to `stop`, the latter left out. -/
structure ByteRange where
  start : Nat := 0
  stop : Nat := 0
deriving DecidableEq, Repr

namespace ByteRange

/-- The number of bytes covered. -/
def length (s : ByteRange) : Nat := s.stop - s.start

/-- Whether no byte is covered. -/
def isEmpty (s : ByteRange) : Bool := s.start == s.stop

/-- The characters covered, if the range lies within the text and on boundaries of characters. -/
def textIn? (s : ByteRange) (t : Text) : Option Text := Text.byteSlice? t s.start s.stop

/-- Ranges are ordered by their starts, and then by their ends. -/
def compare (s t : ByteRange) : Ordering :=
  (Ord.compare s.start t.start).then (Ord.compare s.stop t.stop)

end ByteRange

end SheetLex
