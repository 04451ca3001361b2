import SheetLex.Text.Basic

/-!
# Reading bytes as UTF-8

`decodeLossy` reads any sequence of bytes. What is not well formed is replaced: each maximal
part that could have begun a character, and each byte that can begin none, becomes one U+FFFD.

The reader is a machine that holds the character begun so far. An octet that cannot continue
that character closes it with a replacement and is then read afresh.
-/

set_option autoImplicit false

namespace SheetLex.Text

/-- The character that stands for malformed bytes. -/
def replacement : Char := Char.ofNat 0xFFFD

/-- Where the reader stands between two octets. -/
inductive Utf8State where
  /-- Between characters. -/
  | start
  /-- Inside a character: so many octets are owed, the next one lies between `low` and `high`,
  and the bits read so far have the value `bits`. -/
  | owing (count low high bits : Nat)
deriving DecidableEq, Repr

/-- Read an octet that begins a character. -/
def beginChar (b : Nat) : Text × Utf8State :=
  if b < 0x80 then ([Char.ofNat b], .start)
  else if 0xC2 ≤ b ∧ b ≤ 0xDF then ([], .owing 1 0x80 0xBF (b - 0xC0))
  else if b = 0xE0 then ([], .owing 2 0xA0 0xBF 0)
  else if b = 0xED then ([], .owing 2 0x80 0x9F 0xD)
  else if 0xE1 ≤ b ∧ b ≤ 0xEF then ([], .owing 2 0x80 0xBF (b - 0xE0))
  else if b = 0xF0 then ([], .owing 3 0x90 0xBF 0)
  else if 0xF1 ≤ b ∧ b ≤ 0xF3 then ([], .owing 3 0x80 0xBF (b - 0xF0))
  else if b = 0xF4 then ([], .owing 3 0x80 0x8F 4)
  else ([replacement], .start)

/-- Read one octet: the characters completed by it, and the state after it. -/
def readOctet : Utf8State → Nat → Text × Utf8State
  | .start, b => beginChar b
  | .owing count low high bits, b =>
    if low ≤ b ∧ b ≤ high then
      let bits' := bits * 64 + (b - 0x80)
      if count ≤ 1 then ([Char.ofNat bits'], .start)
      else ([], .owing (count - 1) 0x80 0xBF bits')
    else
      let (chars, state) := beginChar b
      (replacement :: chars, state)

/-- Read the remaining octets; a character left unfinished at the end is replaced. -/
def readOctets : Utf8State → List Nat → Text
  | .start, [] => []
  | .owing .., [] => [replacement]
  | state, b :: bs =>
    let (chars, state') := readOctet state b
    chars ++ readOctets state' bs

/-- The text that the octets spell, with replacements where they spell none. -/
def decodeLossy (octets : List Nat) : Text := readOctets .start octets

end SheetLex.Text
