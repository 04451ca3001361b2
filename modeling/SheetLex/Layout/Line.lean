import SheetLex.Text.Basic

/-!
# Lines and line-number hints

Source text may carry line-number hints: a NUL, directly followed by the decimal number of the
line that the following text stands on. A NUL ends a line as a line feed does, and the digits
behind it belong to the hint and not to the text.

`lines` cuts a text into lines; each remembers whether a NUL introduced it. `Line.hint?` reads
the hint of a line, and `Line.content` is what remains of the line without hint digits and
without padding at its ends.
-/

set_option autoImplicit false

namespace SheetLex

/-- The character that a line-number hint begins with. -/
def hintMark : Char := '\x00'

/-- The greatest line number that a hint can give: numbers are 64 bits wide. -/
def greatestLineNumber : Nat := 0xFFFFFFFFFFFFFFFF

/-- A line of text. -/
structure Line where
  /-- Whether the character before the line is a hint mark. -/
  marked : Bool
  /-- The characters of the line, hint digits included. -/
  text : Text
deriving DecidableEq, Repr

namespace Line

/-- Put a character in front of the first line. -/
def consFirst (c : Char) : List Line → List Line
  | [] => []
  | line :: rest => { line with text := c :: line.text } :: rest

/-- Cut a text at line feeds and hint marks. `marked` tells whether a hint mark stands before the
text. -/
def split (marked : Bool) : Text → List Line
  | [] => [⟨marked, []⟩]
  | c :: rest =>
    if c = '\n' then ⟨marked, []⟩ :: split false rest
    else if c = hintMark then ⟨marked, []⟩ :: split true rest
    else consFirst c (split marked rest)

/-- The value of a run of decimal digits. -/
def digitsValue (digits : Text) : Nat :=
  digits.foldl (fun value d => value * 10 + (d.toNat - '0'.toNat)) 0

/-- The digits of the line's hint: those it begins with, if a hint mark introduces it. -/
def hintDigits (line : Line) : Text :=
  if line.marked then line.text.takeWhile Char.isDigit else []

/-- The line number that the hint gives. There is none without digits, nor if the number is too
large. -/
def hint? (line : Line) : Option Nat :=
  if line.hintDigits.isEmpty then none
  else
    let value := digitsValue line.hintDigits
    if value ≤ greatestLineNumber then some value else none

/-- Characters that count for nothing at the ends of a line. -/
def isPadding (c : Char) : Bool := c = ' ' || c = '\t' || c = '\r' || c = ';'

/-- The line without its hint digits and without padding at its ends. -/
def content (line : Line) : Text :=
  Text.trimBy isPadding (line.text.drop line.hintDigits.length)

end Line

/-- The lines of a text. -/
def lines (t : Text) : List Line := Line.split false t

end SheetLex
