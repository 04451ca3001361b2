import SheetLex.Layout.Line

/-!
# Condensed text

Selectors and declarations are reported in a condensed form: the contents of their lines, without
the lines that have none, joined by line feeds. With it goes the first line number that a hint
in the text gives.

A text is blank when its condensed form is empty.
-/

set_option autoImplicit false

namespace SheetLex

/-- A condensed text with the line number that belongs to it. -/
structure Condensed where
  /-- The contents of the lines that have any, joined by line feeds. -/
  text : Text
  /-- The first line number that a hint gives. -/
  line : Option Nat
deriving DecidableEq, Repr

/-- The contents of the lines of a text, lines without content left out. -/
def contents (t : Text) : List Text :=
  ((lines t).map Line.content).filter fun content => !content.isEmpty

/-- Condense a text. -/
def condense (t : Text) : Condensed where
  text := ['\n'].intercalate (contents t)
  line := (lines t).findSome? Line.hint?

/-- Whether no line of the text has content. -/
def isBlank (t : Text) : Bool := (lines t).all fun line => line.content.isEmpty

/-- The length of the condensed form in bytes. -/
def Condensed.byteLength (n : Condensed) : Nat := Text.byteLength n.text

/-- Whether the condensed form is empty. -/
def Condensed.isEmpty (n : Condensed) : Bool := n.text.isEmpty

end SheetLex
