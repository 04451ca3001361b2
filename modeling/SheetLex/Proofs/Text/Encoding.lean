import SheetLex.Text.Basic
import Mathlib.Data.List.Basic

/-!
# The bytes of a text

`Text.encode` is the UTF-8 form of a text. An ASCII character is written as the byte of its code,
any other one with bytes from 128 on. A reader of bytes that passes over the latter therefore
reads a text as if it read it character by character (`foldl_encode`).
-/

set_option autoImplicit false

namespace SheetLex.Text

/-- The UTF-8 form of a text. -/
def encode (t : Text) : List UInt8 := t.flatMap String.utf8EncodeChar

theorem encode_append (s t : Text) : encode (s ++ t) = encode s ++ encode t :=
  List.flatMap_append

theorem length_encode (t : Text) : (encode t).length = byteLength t := by
  induction t with
  | nil => rfl
  | cons c t ih =>
    rw [encode, List.flatMap_cons, List.length_append, String.length_utf8EncodeChar]
    exact congrArg _ ih

/-! ## Bytes of characters -/

section Bytes

variable {c d : Char}

theorem utf8EncodeChar_of_ascii (h : c.toNat < 128) :
    String.utf8EncodeChar c = [c.toUInt8] := by
  have hval : c.val.toNat ≤ 127 := Nat.le_of_lt_succ h
  rw [String.utf8EncodeChar, if_pos hval]
  rfl

/-- ASCII characters are told apart by their bytes. -/
theorem toUInt8_eq_iff (hc : c.toNat < 128) (hd : d.toNat < 128) :
    c.toUInt8 = d.toUInt8 ↔ c = d := by
  refine ⟨fun h => ?_, congrArg _⟩
  have hcode : c.toNat % 256 = d.toNat % 256 := congrArg UInt8.toNat h
  apply Char.toNat_inj.1
  omega

/-- A character that is not ASCII has no ASCII byte. -/
theorem le_of_mem_utf8EncodeChar (h : 128 ≤ c.toNat) {byte : UInt8}
    (hbyte : byte ∈ String.utf8EncodeChar c) : 128 ≤ byte.toNat := by
  have hval : ¬ c.val.toNat ≤ 127 := Nat.not_le_of_lt h
  rw [String.utf8EncodeChar] at hbyte
  simp only [if_neg hval] at hbyte
  -- every byte adds 128 at least to bits that leave the sum below 256
  split at hbyte
  · simp only [List.mem_cons, List.not_mem_nil, or_false] at hbyte
    rcases hbyte with rfl | rfl <;> simp only [UInt8.toNat_ofNat'] <;> omega
  · split at hbyte
    · simp only [List.mem_cons, List.not_mem_nil, or_false] at hbyte
      rcases hbyte with rfl | rfl | rfl <;> simp only [UInt8.toNat_ofNat'] <;> omega
    · simp only [List.mem_cons, List.not_mem_nil, or_false] at hbyte
      rcases hbyte with rfl | rfl | rfl | rfl <;> simp only [UInt8.toNat_ofNat'] <;> omega

end Bytes

/-! ## Reading bytes -/

section Fold

variable {σ : Type} {f : σ → UInt8 → σ} {g : σ → Char → σ}

/-- A reader that passes over bytes from 128 on stays where it is in a character that is not
ASCII. -/
theorem foldl_take_utf8EncodeChar (hbyte : ∀ s byte, 128 ≤ byte.toNat → f s byte = s) {c : Char}
    (h : 128 ≤ c.toNat) (s : σ) (k : Nat) :
    ((String.utf8EncodeChar c).take k).foldl f s = s := by
  have hpass : ∀ s, ∀ byte ∈ (String.utf8EncodeChar c).take k, f s byte = s :=
    fun s byte hmem => hbyte s byte (le_of_mem_utf8EncodeChar h (List.mem_of_mem_take hmem))
  rw [List.foldl_ext f (fun s _ => s) s hpass]
  exact List.foldl_fixed _

/-- A reader that passes over bytes from 128 on reads a text character by character. -/
theorem foldl_encode (hascii : ∀ s c, c.toNat < 128 → f s c.toUInt8 = g s c)
    (hbyte : ∀ s byte, 128 ≤ byte.toNat → f s byte = s)
    (hchar : ∀ s c, 128 ≤ c.toNat → g s c = s) (s : σ) (t : Text) :
    (encode t).foldl f s = t.foldl g s := by
  induction t generalizing s with
  | nil => rfl
  | cons c t ih =>
    have hstep : (String.utf8EncodeChar c).foldl f s = g s c := by
      rcases Nat.lt_or_ge c.toNat 128 with hc | hc
      · rw [utf8EncodeChar_of_ascii hc]
        exact hascii s c hc
      · rw [hchar s c hc, ← List.take_length (l := String.utf8EncodeChar c)]
        exact foldl_take_utf8EncodeChar hbyte hc s _
    rw [encode, List.flatMap_cons, List.foldl_append, hstep]
    exact ih (g s c)

end Fold

end SheetLex.Text
