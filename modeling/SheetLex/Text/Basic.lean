import SheetLex.Unicode.WhiteSpace

/-!
# Texts and their byte offsets

A text is a list of characters. Positions in it are given in two units: as the number of
characters before them, inside the library, and as the number of bytes of the UTF-8 form before
them, in everything that is reported. This module converts between the two, cuts texts at byte
offsets, and trims them.

Main statements: the byte length of a concatenation is the sum of the byte lengths
(`byteLength_append`), a piece of a text is no longer than the text (`byteLength_take_le`), a byte
offset that `charIndex?` accepts is the byte length of that many characters
(`byteLength_take_of_charIndex?`), and a piece of a text is what `byteSlice?` reads where the piece
lies (`byteSlice?_append`).
-/

set_option autoImplicit false

namespace SheetLex

/-- A text: its characters in order. -/
abbrev Text := List Char

namespace Text

/-! ## Byte lengths -/

/-- The number of bytes of the UTF-8 form. -/
def byteLength : Text → Nat
  | [] => 0
  | c :: t => c.utf8Size + byteLength t

@[simp] theorem byteLength_nil : byteLength [] = 0 := rfl

@[simp] theorem byteLength_cons (c : Char) (t : Text) :
    byteLength (c :: t) = c.utf8Size + byteLength t := rfl

@[simp] theorem byteLength_append (s t : Text) :
    byteLength (s ++ t) = byteLength s + byteLength t := by
  induction s with
  | nil => simp
  | cons c s ih => simp [ih, Nat.add_assoc]

theorem byteLength_take_add_drop (n : Nat) (t : Text) :
    byteLength (t.take n) + byteLength (t.drop n) = byteLength t := by
  rw [← byteLength_append, List.take_append_drop]

theorem byteLength_take_le (n : Nat) (t : Text) : byteLength (t.take n) ≤ byteLength t := by
  have := byteLength_take_add_drop n t
  omega

theorem byteLength_take_mono {m n : Nat} (h : m ≤ n) (t : Text) :
    byteLength (t.take m) ≤ byteLength (t.take n) := by
  have := byteLength_take_le m (t.take n)
  rwa [List.take_take, Nat.min_eq_left h] at this

/-- Every character takes a byte at least. -/
theorem length_le_byteLength (t : Text) : t.length ≤ byteLength t := by
  induction t with
  | nil => simp
  | cons c t ih =>
    have := c.utf8Size_pos
    simp
    omega

/-! ## Byte offsets -/

/-- The number of characters before the byte offset, if the offset lies on the boundary of a
character or at the end. -/
def charIndex? : Text → Nat → Option Nat
  | _, 0 => some 0
  | [], _ + 1 => none
  | c :: t, n + 1 =>
    if c.utf8Size ≤ n + 1 then (charIndex? t (n + 1 - c.utf8Size)).map (· + 1) else none

theorem byteLength_take_of_charIndex? {t : Text} {n i : Nat} (h : charIndex? t n = some i) :
    byteLength (t.take i) = n := by
  induction t generalizing n i with
  | nil => cases n <;> simp_all [charIndex?]
  | cons c t ih =>
    cases n with
    | zero =>
      obtain rfl : 0 = i := by simpa [charIndex?] using h
      simp
    | succ n =>
      rw [charIndex?] at h
      split at h
      · rename_i hc
        obtain ⟨j, hj, rfl⟩ := Option.map_eq_some_iff.1 h
        simp [ih hj]
        omega
      · simp at h

/-- Where a text ends, the next one begins. -/
theorem charIndex?_append (s t : Text) : charIndex? (s ++ t) (byteLength s) = some s.length := by
  induction s with
  | nil => cases t <;> rfl
  | cons c s ih =>
    have hpos := c.utf8Size_pos
    obtain ⟨n, hn⟩ : ∃ n, c.utf8Size + byteLength s = n + 1 :=
      Nat.exists_eq_succ_of_ne_zero (by omega)
    rw [List.cons_append, byteLength_cons, hn, charIndex?, if_pos (by omega),
      show n + 1 - c.utf8Size = byteLength s by omega, ih]
    rfl

/-- The characters between two byte offsets, if both lie on boundaries of characters, in order
and within the text. -/
def byteSlice? (t : Text) (start stop : Nat) : Option Text :=
  if start ≤ stop then
    match charIndex? t start, charIndex? t stop with
    | some i, some j => some ((t.drop i).take (j - i))
    | _, _ => none
  else none

/-- A piece of a text is found again at the byte offsets where it lies. -/
theorem byteSlice?_append (s t u : Text) :
    byteSlice? (s ++ t ++ u) (byteLength s) (byteLength s + byteLength t) = some t := by
  have hstart : charIndex? (s ++ t ++ u) (byteLength s) = some s.length := by
    rw [List.append_assoc]
    exact charIndex?_append s (t ++ u)
  have hstop : charIndex? (s ++ t ++ u) (byteLength s + byteLength t) =
      some (s.length + t.length) := by
    rw [← byteLength_append, ← List.length_append]
    exact charIndex?_append (s ++ t) u
  rw [byteSlice?, if_pos (Nat.le_add_right _ _), hstart, hstop]
  simp

/-- The characters from the `i`-th up to the `j`-th, the latter left out. -/
def slice (t : Text) (i j : Nat) : Text := (t.take j).drop i

/-- What lies before an index and the slice from there on are pieces of the text, one behind the
other. -/
theorem take_append_slice_isPrefix (i j : Nat) (t : Text) : t.take i ++ slice t i j <+: t := by
  rcases Nat.le_total i j with h | h
  · have split : (t.take j).take i ++ slice t i j = t.take j := List.take_append_drop i _
    rw [List.take_take, Nat.min_eq_left h] at split
    rw [split]
    exact List.take_prefix j t
  · have empty : slice t i j = [] := by
      rw [slice, List.drop_eq_nil_iff, List.length_take]
      omega
    rw [empty, List.append_nil]
    exact List.take_prefix i t

/-! ## Trimming -/

/-- The text without the characters at either end that satisfy the test. -/
def trimBy (p : Char → Bool) (t : Text) : Text := ((t.dropWhile p).reverse.dropWhile p).reverse

/-- The text without white space at either end. -/
def trim (t : Text) : Text := trimBy Unicode.isWhiteSpace t

end Text

end SheetLex
