import SheetLex.Text.Basic
import SheetLex.Unicode.Property

/-!
# Quoted texts

The form in which a text is shown: between double quotes, with a backslash before quotes and
backslashes, short escapes for the common controls, and the code point in hexadecimal for
characters without a shape of their own and for those that extend the character before them.
-/

set_option autoImplicit false

namespace SheetLex.Text

/-- A code point as an escape with lower-case hexadecimal digits. -/
def codeEscape (c : Char) : Text :=
  ['\\', 'u', '{'] ++ Nat.toDigits 16 c.toNat ++ ['}']

/-- Whether a character is shown as itself. -/
def isShown (c : Char) : Bool :=
  Unicode.printable.contains c && !Unicode.graphemeExtend.contains c

/-- How one character is shown between quotes. -/
def quoteChar (c : Char) : Text :=
  if c = '"' then ['\\', '"']
  else if c = '\\' then ['\\', '\\']
  else if c = '\n' then ['\\', 'n']
  else if c = '\r' then ['\\', 'r']
  else if c = '\t' then ['\\', 't']
  else if c = '\x00' then ['\\', '0']
  else if isShown c then [c]
  else codeEscape c

/-- The text between quotes. -/
def quote (t : Text) : Text := '"' :: t.flatMap quoteChar ++ ['"']

end SheetLex.Text
