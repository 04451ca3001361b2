import SheetLex.Proofs.Text.Encoding

/-!
# Positions as byte offsets

Inside the library a position counts the characters before it; a reader of bytes counts bytes.
`Text.offset` turns the one into the other. It keeps the order of positions, every offset it gives
lies on the boundary of a character (`charIndex?_offset`), and between two such offsets the bytes
of the text are those of the slice between the positions (`byteSlice?_offset`). Behind an ASCII
character the offset is the next one (`offset_succ_of_ascii`).
-/

set_option autoImplicit false

namespace SheetLex.Text

/-- The byte offset of a position that counts characters. -/
def offset (t : Text) (n : Nat) : Nat := byteLength (t.take n)

section Offset

variable {t : Text} {c : Char} {m n : Nat}

theorem offset_zero (t : Text) : offset t 0 = 0 := by rw [offset, List.take_zero, byteLength_nil]

theorem offset_length (t : Text) : offset t t.length = byteLength t := by
  rw [offset, List.take_length]

theorem offset_mono (t : Text) (h : m ≤ n) : offset t m ≤ offset t n := byteLength_take_mono h t

theorem offset_le (t : Text) (n : Nat) : offset t n ≤ byteLength t := byteLength_take_le n t

theorem offset_succ (h : t[n]? = some c) : offset t (n + 1) = offset t n + c.utf8Size := by
  rw [offset, List.take_add_one, h, byteLength_append]
  rfl

theorem utf8Size_of_ascii (h : c.toNat < 128) : c.utf8Size = 1 := by
  rw [← String.length_utf8EncodeChar, utf8EncodeChar_of_ascii h]
  rfl

theorem offset_succ_of_ascii (h : t[n]? = some c) (hc : c.toNat < 128) :
    offset t (n + 1) = offset t n + 1 := by
  rw [offset_succ h, utf8Size_of_ascii hc]

theorem offset_lt (h : m < n) (hn : n ≤ t.length) : offset t m < offset t n := by
  have hstep : offset t m < offset t (m + 1) := by
    rw [offset_succ (List.getElem?_eq_getElem (Nat.lt_of_lt_of_le h hn))]
    exact Nat.lt_add_of_pos_right (Char.utf8Size_pos _)
  exact Nat.lt_of_lt_of_le hstep (offset_mono t h)

theorem offset_lt_iff (hn : n ≤ t.length) :
    offset t m < offset t n ↔ m < n := by
  refine ⟨fun h => ?_, fun h => offset_lt h hn⟩
  by_contra hle
  exact absurd (offset_mono t (Nat.le_of_not_lt hle)) (Nat.not_le_of_lt h)

theorem charIndex?_offset_eq (t : Text) (n : Nat) :
    charIndex? t (offset t n) = some (t.take n).length := by
  have h := charIndex?_append (t.take n) (t.drop n)
  rwa [List.take_append_drop] at h

theorem charIndex?_offset (hn : n ≤ t.length) : charIndex? t (offset t n) = some n := by
  rw [charIndex?_offset_eq, List.length_take_of_le hn]

/-- Between the offsets of two positions lies the slice between the positions. -/
theorem byteSlice?_offset (hmn : m ≤ n) (hn : n ≤ t.length) :
    byteSlice? t (offset t m) (offset t n) = some (slice t m n) := by
  rw [byteSlice?, if_pos (offset_mono t hmn), charIndex?_offset (Nat.le_trans hmn hn),
    charIndex?_offset hn, slice, List.drop_take]

end Offset

/-! ## The bytes at an offset -/

section Bytes

variable {t : Text} {c : Char} {n : Nat}

theorem encode_cons (c : Char) (t : Text) : encode (c :: t) = String.utf8EncodeChar c ++ encode t :=
  List.flatMap_cons

theorem drop_encode_offset (t : Text) (n : Nat) :
    (encode t).drop (offset t n) = encode (t.drop n) := by
  conv_lhs => rw [← List.take_append_drop n t, encode_append, offset, List.take_append_drop]
  rw [← length_encode, List.drop_left]

theorem drop_encode_of_getElem? (h : t[n]? = some c) :
    (encode t).drop (offset t n) = String.utf8EncodeChar c ++ encode (t.drop (n + 1)) := by
  rw [drop_encode_offset, ← encode_cons]
  congr 1
  obtain ⟨hlt, rfl⟩ := List.getElem?_eq_some_iff.1 h
  exact List.drop_eq_getElem_cons hlt

/-- The byte of an ASCII character is read at the offset of its position. -/
theorem getElem?_encode_of_ascii (h : t[n]? = some c) (hc : c.toNat < 128) :
    (encode t)[offset t n]? = some c.toUInt8 := by
  rw [← List.head?_drop, drop_encode_of_getElem? h, utf8EncodeChar_of_ascii hc]
  rfl

/-- Inside a character that is not ASCII no byte is one of an ASCII character. -/
theorem exists_getElem?_encode (h : t[n]? = some c) {k : Nat} (hk : k < c.utf8Size) :
    ∃ byte ∈ String.utf8EncodeChar c, (encode t)[offset t n + k]? = some byte := by
  rw [← String.length_utf8EncodeChar] at hk
  refine ⟨(String.utf8EncodeChar c)[k], List.getElem_mem hk, ?_⟩
  rw [← List.getElem?_drop, drop_encode_of_getElem? h, List.getElem?_append_left hk,
    List.getElem?_eq_getElem hk]

/-- Whether the byte before an offset is that of an ASCII character shows in the character before
the position: a character that is not ASCII ends with no such byte. -/
theorem getElem?_encode_pred_iff (hpos : 0 < n) (hn : n ≤ t.length) {d : Char}
    (hd : d.toNat < 128) :
    (encode t)[offset t n - 1]? = some d.toUInt8 ↔ t[n - 1]? = some d := by
  obtain ⟨m, rfl⟩ : ∃ m, n = m + 1 := Nat.exists_eq_succ_of_ne_zero (Nat.ne_of_gt hpos)
  have hat := List.getElem?_eq_getElem (Nat.lt_of_succ_le hn)
  generalize t[m] = c at hat
  rw [Nat.add_sub_cancel, hat, Option.some_inj]
  rcases Nat.lt_or_ge c.toNat 128 with hc | hc
  · rw [offset_succ_of_ascii hat hc, Nat.add_sub_cancel, getElem?_encode_of_ascii hat hc,
      Option.some_inj, toUInt8_eq_iff hc hd]
  · have hsize := c.utf8Size_pos
    obtain ⟨byte, hmem, hbyte⟩ := exists_getElem?_encode hat (Nat.sub_lt hsize Nat.one_pos)
    rw [offset_succ hat, Nat.add_sub_assoc hsize, hbyte, Option.some_inj]
    have hlarge := le_of_mem_utf8EncodeChar hc hmem
    refine iff_of_false ?_ ?_
    · rintro rfl
      have hcode : d.toUInt8.toNat = d.toNat % 256 := rfl
      omega
    · rintro rfl
      omega

end Bytes

end SheetLex.Text
