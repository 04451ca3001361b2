import SheetLex.Unicode.CodeSet

/-!
# White space

The characters with the property `White_Space`: the tab and the four controls after it, the
space, the next-line control, the no-break space, and the spaces and separators outside Latin-1.
-/

set_option autoImplicit false

namespace SheetLex.Unicode

/-- The characters with the property `White_Space`. -/
def whiteSpace : CodeSet :=
  ⟨[(0x9, 0xD), (0x20, 0x20), (0x85, 0x85), (0xA0, 0xA0), (0x1680, 0x1680), (0x2000, 0x200A),
    (0x2028, 0x2029), (0x202F, 0x202F), (0x205F, 0x205F), (0x3000, 0x3000)]⟩

/-- Whether the character has the property `White_Space`. -/
def isWhiteSpace (c : Char) : Bool := whiteSpace.contains c

end SheetLex.Unicode
