import SheetLex.Proofs.Text.Offset
import SheetLex.Layout.Condensed

/-!
# Lines cut at byte offsets

`linesByBytes?` cuts a text into lines as a reader of bytes does: it looks for the offset of the
next break, takes what lies before the offset, and goes on with what lies one byte behind it.
`Line.readByBytes?` counts the bytes of a hint's digits and cuts the line there. Each cut is made
with `Text.byteSlice?`, which refuses offsets out of order, out of bounds or inside a character.

No cut is ever refused: a break takes one byte, and so does a digit. The lines are those of
`lines` (`linesByBytes?_eq`), with the contents and hints that these have
(`Line.readByBytes?_eq`), so that condensing a text at byte offsets always succeeds and comes to
the same as `condense` (`condenseByBytes?_eq`).
-/

set_option autoImplicit false

namespace SheetLex

/-- Whether a character ends a line. -/
def endsLine (c : Char) : Bool := c == '\n' || c == hintMark

theorem endsLine_cases {c : Char} (h : endsLine c = true) : c = '\n' ∨ c = hintMark := by
  simpa only [endsLine, Bool.or_eq_true, beq_iff_eq] using h

theorem endsLine_ascii {c : Char} (h : endsLine c = true) : c.toNat < 128 := by
  rcases endsLine_cases h with rfl | rfl <;> decide

/-! ## The offset of a character -/

namespace Text

/-- The byte offset of the first character that satisfies the test. -/
def findOffset? (p : Char → Bool) : Text → Option Nat
  | [] => none
  | c :: t => if p c then some 0 else (findOffset? p t).map (c.utf8Size + ·)

section FindOffset

variable {p : Char → Bool} {t : Text}

theorem findOffset?_eq_none (h : findOffset? p t = none) : ∀ c ∈ t, p c = false := by
  induction t with
  | nil => exact fun c hc => nomatch hc
  | cons c t ih =>
    rw [findOffset?] at h
    split at h
    · cases h
    · rename_i hc
      rw [Option.map_eq_none_iff] at h
      exact List.forall_mem_cons.2 ⟨Bool.eq_false_iff.2 hc, ih h⟩

/-- The offset found is the length of the text before the character. -/
theorem exists_of_findOffset? {i : Nat} (h : findOffset? p t = some i) :
    ∃ before d behind, t = before ++ d :: behind ∧ i = byteLength before ∧ p d = true ∧
      ∀ c ∈ before, p c = false := by
  induction t generalizing i with
  | nil => cases h
  | cons c t ih =>
    rw [findOffset?] at h
    split at h
    · rename_i hc
      obtain rfl := Option.some.inj h
      exact ⟨[], c, t, rfl, rfl, hc, fun d hd => nomatch hd⟩
    · rename_i hc
      obtain ⟨j, hj, rfl⟩ := Option.map_eq_some_iff.1 h
      obtain ⟨before, d, behind, rfl, rfl, hd, hbefore⟩ := ih hj
      exact ⟨c :: before, d, behind, rfl, rfl, hd,
        List.forall_mem_cons.2 ⟨Bool.eq_false_iff.2 hc, hbefore⟩⟩

end FindOffset

/-- A position that is not at the start has a character before it. -/
theorem pos_of_charIndex?_succ {t : Text} {n k : Nat} (h : charIndex? t (n + 1) = some k) :
    0 < k := by
  cases t with
  | nil => cases h
  | cons c t =>
    rw [charIndex?] at h
    split at h
    · obtain ⟨j, -, rfl⟩ := Option.map_eq_some_iff.1 h
      exact Nat.succ_pos j
    · cases h

/-- What lies behind a byte of a text is shorter than the text. -/
theorem length_lt_of_byteSlice? {t u : Text} {i n : Nat} (h : byteSlice? t (i + 1) n = some u) :
    u.length < t.length := by
  rw [byteSlice?] at h
  split at h
  · split at h
    · rename_i j k hj hk
      obtain rfl := Option.some.inj h
      have hpos := pos_of_charIndex?_succ hj
      have hlen : 0 < t.length := by
        cases t with
        | nil => cases hj
        | cons c t => exact Nat.succ_pos _
      rw [List.length_take, List.length_drop]
      omega
    · cases h
  · cases h

end Text

/-! ## Cutting lines -/

/-- Cut a text into lines at byte offsets. `marked` tells whether a hint mark stands before the
text. -/
def linesByBytes? (marked : Bool) (t : Text) : Option (List Line) :=
  match Text.findOffset? endsLine t with
  | none => some [⟨marked, t⟩]
  | some i =>
    match _h : Text.byteSlice? t (i + 1) (Text.byteLength t) with
    | none => none
    | some rest => do
      let first ← Text.byteSlice? t 0 i
      let byte ← (Text.encode t)[i]?
      let lines ← linesByBytes? (byte == hintMark.toUInt8) rest
      some (⟨marked, first⟩ :: lines)
termination_by t.length
decreasing_by exact Text.length_lt_of_byteSlice? ‹_›

namespace Line

theorem split_of_not_endsLine {marked : Bool} {t : Text} (h : ∀ c ∈ t, endsLine c = false) :
    split marked t = [⟨marked, t⟩] := by
  induction t with
  | nil => rfl
  | cons c t ih =>
    obtain ⟨hc, ht⟩ := List.forall_mem_cons.1 h
    simp only [endsLine, Bool.or_eq_false_iff, beq_eq_false_iff_ne] at hc
    rw [split, if_neg hc.1, if_neg hc.2, ih ht]
    rfl

/-- A break ends the first line, and tells whether a hint mark introduces the second. -/
theorem split_append_break {marked : Bool} {first rest : Text} {d : Char}
    (h : ∀ c ∈ first, endsLine c = false) (hd : endsLine d = true) :
    split marked (first ++ d :: rest) = ⟨marked, first⟩ :: split (d == hintMark) rest := by
  induction first with
  | nil => rcases endsLine_cases hd with rfl | rfl <;> rfl
  | cons c first ih =>
    obtain ⟨hc, hfirst⟩ := List.forall_mem_cons.1 h
    simp only [endsLine, Bool.or_eq_false_iff, beq_eq_false_iff_ne] at hc
    rw [List.cons_append, split, if_neg hc.1, if_neg hc.2, ih hfirst]
    rfl

end Line

/-- The pieces that a break cuts a text into lie at the offsets of the break. -/
theorem cuts_at_break (first rest : Text) {d : Char} (hd : endsLine d = true) :
    Text.byteSlice? (first ++ d :: rest) 0 (Text.byteLength first) = some first ∧
      (Text.encode (first ++ d :: rest))[Text.byteLength first]? = some d.toUInt8 ∧
      Text.byteSlice? (first ++ d :: rest) (Text.byteLength first + 1)
        (Text.byteLength (first ++ d :: rest)) = some rest := by
  refine ⟨?_, ?_, ?_⟩
  · have h := Text.byteSlice?_append [] first (d :: rest)
    rwa [List.nil_append, Text.byteLength_nil, Nat.zero_add] at h
  · have hat : (first ++ d :: rest)[first.length]? = some d := by
      rw [List.getElem?_append_right (Nat.le_refl _), Nat.sub_self]
      rfl
    rw [← Text.getElem?_encode_of_ascii hat (endsLine_ascii hd), Text.offset, List.take_left]
  · have h := Text.byteSlice?_append (first ++ [d]) rest []
    rw [List.append_nil, ← Text.byteLength_append, Text.byteLength_append first [d],
      Text.byteLength_cons, Text.utf8Size_of_ascii (endsLine_ascii hd)] at h
    rwa [List.append_assoc] at h

/-- No cut is refused, and the lines are those found character by character. -/
theorem linesByBytes?_eq (marked : Bool) (t : Text) :
    linesByBytes? marked t = some (Line.split marked t) := by
  -- on the length of the text: what lies behind a break is shorter
  induction hn : t.length using Nat.strongRecOn generalizing marked t with
  | ind n ih =>
    subst hn
    rw [linesByBytes?]
    cases hfind : Text.findOffset? endsLine t with
    | none => exact congrArg some (Line.split_of_not_endsLine (Text.findOffset?_eq_none hfind)).symm
    | some i =>
      obtain ⟨first, d, rest, rfl, rfl, hd, hfirst⟩ := Text.exists_of_findOffset? hfind
      obtain ⟨hbefore, hbyte, hbehind⟩ := cuts_at_break first rest hd
      have hmark : (d.toUInt8 == hintMark.toUInt8) = (d == hintMark) := by
        rcases endsLine_cases hd with rfl | rfl <;> rfl
      have hshorter : rest.length < (first ++ d :: rest).length := by
        rw [List.length_append, List.length_cons]
        omega
      simp only
      split
      · rename_i hnone
        exact absurd (hbehind.symm.trans hnone) (Option.some_ne_none rest)
      · rename_i rest' hrest
        obtain rfl : rest = rest' := Option.some.inj (hbehind.symm.trans hrest)
        rw [hbefore, hbyte, Line.split_append_break hfirst hd, ← hmark]
        simp only [Option.bind_eq_bind, Option.bind_some, ih _ hshorter _ _ rfl]

/-! ## Hints and contents -/

/-- Whether a byte is that of a decimal digit. -/
def isDigitByte (byte : UInt8) : Bool := '0'.toUInt8 ≤ byte && byte ≤ '9'.toUInt8

namespace Line

/-- The value of a run of decimal digits, if it is a number of 64 bits. -/
def parseNumber? (digits : Text) : Option Nat :=
  if digitsValue digits ≤ greatestLineNumber then some (digitsValue digits) else none

/-- The content of a line and the line number that its hint gives, cut from each other behind the
bytes of the hint's digits. -/
def readByBytes? (line : Line) : Option (Text × Option Nat) :=
  let count :=
    if line.marked then ((Text.encode line.text).takeWhile isDigitByte).length else 0
  if count = 0 then some (Text.trimBy isPadding line.text, none)
  else do
    let digits ← Text.byteSlice? line.text 0 count
    let rest ← Text.byteSlice? line.text count (Text.byteLength line.text)
    some (Text.trimBy isPadding rest, parseNumber? digits)

theorem ascii_of_isDigit {c : Char} (h : c.isDigit = true) : c.toNat < 128 := by
  rw [Char.isDigit, Bool.and_eq_true, decide_eq_true_eq, decide_eq_true_eq] at h
  have hnine : c.toNat ≤ 57 := h.2
  omega

theorem isDigitByte_toUInt8 {c : Char} (hc : c.toNat < 128) :
    isDigitByte c.toUInt8 = c.isDigit := by
  have hcode : c.toUInt8.toNat = c.toNat := Nat.mod_eq_of_lt (Nat.lt_trans hc (by decide))
  have hval : c.toNat = c.val.toNat := rfl
  have hzero : '0'.toUInt8.toNat = 48 := rfl
  have hnine : '9'.toUInt8.toNat = 57 := rfl
  rw [isDigitByte, Char.isDigit, Bool.eq_iff_iff]
  simp only [Bool.and_eq_true, decide_eq_true_eq, UInt8.le_iff_toNat_le, ge_iff_le,
    UInt32.le_iff_toNat_le, hcode, hzero, hnine, hval]
  rfl

theorem isDigitByte_of_le {byte : UInt8} (h : 128 ≤ byte.toNat) : isDigitByte byte = false := by
  have hnine : '9'.toUInt8.toNat = 57 := rfl
  rw [isDigitByte, Bool.and_eq_false_iff, decide_eq_false_iff_not, decide_eq_false_iff_not,
    UInt8.le_iff_toNat_le, UInt8.le_iff_toNat_le]
  omega

/-- As many bytes of digits begin a text as digits. -/
theorem length_takeWhile_encode (t : Text) :
    ((Text.encode t).takeWhile isDigitByte).length = (t.takeWhile Char.isDigit).length := by
  induction t with
  | nil => rfl
  | cons c t ih =>
    rw [Text.encode_cons]
    rcases Nat.lt_or_ge c.toNat 128 with hc | hc
    · rw [Text.utf8EncodeChar_of_ascii hc, List.singleton_append, List.takeWhile_cons,
        List.takeWhile_cons, isDigitByte_toUInt8 hc]
      split
      · exact congrArg Nat.succ ih
      · rfl
    · -- the first byte of the character is no digit, and neither is the character
      have hdigit : c.isDigit = false :=
        Bool.eq_false_iff.2 fun h => absurd (ascii_of_isDigit h) (Nat.not_lt_of_le hc)
      rw [List.takeWhile_cons_of_neg (Bool.eq_false_iff.1 hdigit)]
      cases hbytes : String.utf8EncodeChar c with
      | nil =>
        have hsize := c.utf8Size_pos
        rw [← String.length_utf8EncodeChar, hbytes] at hsize
        exact absurd hsize (Nat.lt_irrefl 0)
      | cons byte bytes =>
        have hbyte := isDigitByte_of_le
          (Text.le_of_mem_utf8EncodeChar hc (hbytes ▸ List.mem_cons_self))
        rw [List.cons_append, List.takeWhile_cons_of_neg (Bool.eq_false_iff.1 hbyte)]
        rfl

/-- A run of digits has a byte for each digit. -/
theorem byteLength_takeWhile_isDigit (t : Text) :
    Text.byteLength (t.takeWhile Char.isDigit) = (t.takeWhile Char.isDigit).length := by
  induction t with
  | nil => rfl
  | cons c t ih =>
    cases hc : c.isDigit with
    | false => rw [List.takeWhile_cons_of_neg (Bool.eq_false_iff.1 hc)]; rfl
    | true =>
      rw [List.takeWhile_cons_of_pos hc, Text.byteLength_cons, List.length_cons, ih,
        Text.utf8Size_of_ascii (ascii_of_isDigit hc), Nat.add_comm]

/-- No cut is refused, and a line has the content and the hint that it has character by
character. -/
theorem readByBytes?_eq (line : Line) : line.readByBytes? = some (line.content, line.hint?) := by
  obtain ⟨marked, text⟩ := line
  have hcount : (if marked then ((Text.encode text).takeWhile isDigitByte).length else 0) =
      (hintDigits ⟨marked, text⟩).length := by
    rw [hintDigits, length_takeWhile_encode]
    cases marked <;> rfl
  rw [readByBytes?]
  simp only [hcount]
  split
  · -- without digits the whole line is content
    rename_i hnone
    rw [content, hint?, List.eq_nil_of_length_eq_zero hnone]
    rfl
  · rename_i hsome
    cases marked with
    | false => exact absurd rfl hsome
    | true =>
      have hlength : Text.byteLength (hintDigits ⟨true, text⟩) =
          (hintDigits ⟨true, text⟩).length := byteLength_takeWhile_isDigit text
      have hsplit := List.prefix_iff_eq_append.1 (List.takeWhile_prefix (l := text) Char.isDigit)
      change hintDigits ⟨true, text⟩ ++ text.drop (hintDigits ⟨true, text⟩).length = text at hsplit
      rw [content, hint?]
      simp only
      generalize hintDigits ⟨true, text⟩ = digits at hsome hlength hsplit ⊢
      -- the cut between the digits and the content, at as many bytes as there are digits
      have hdigits : Text.byteSlice? text 0 digits.length = some digits := by
        have h := Text.byteSlice?_append [] digits (text.drop digits.length)
        rwa [List.nil_append, hsplit, Text.byteLength_nil, Nat.zero_add, hlength] at h
      have hrest : Text.byteSlice? text digits.length (Text.byteLength text) =
          some (text.drop digits.length) := by
        have h := Text.byteSlice?_append digits (text.drop digits.length) []
        rwa [List.append_nil, ← Text.byteLength_append, hsplit, hlength] at h
      have hnonempty : ¬ digits.isEmpty = true := fun h =>
        hsome (List.length_eq_zero_iff.2 (List.isEmpty_iff.1 h))
      rw [hdigits, hrest, if_neg hnonempty]
      rfl

end Line

/-! ## Condensing -/

/-- The contents of the lines of a text and the line numbers of their hints. -/
def readLinesByBytes? (t : Text) : Option (List (Text × Option Nat)) := do
  (← linesByBytes? false t).mapM Line.readByBytes?

/-- Condense a text, with every cut made at a byte offset. -/
def condenseByBytes? (t : Text) : Option Condensed := do
  let read ← readLinesByBytes? t
  some {
    text := ['\n'].intercalate ((read.map Prod.fst).filter fun content => !content.isEmpty)
    line := read.findSome? Prod.snd }

/-- Whether no line of the text has content, with every cut made at a byte offset. -/
def isBlankByBytes? (t : Text) : Option Bool := do
  some ((← readLinesByBytes? t).all fun read => read.1.isEmpty)

theorem readLinesByBytes?_eq (t : Text) :
    readLinesByBytes? t = some ((lines t).map fun line => (line.content, line.hint?)) := by
  rw [readLinesByBytes?, linesByBytes?_eq]
  change (lines t).mapM Line.readByBytes? = _
  rw [funext Line.readByBytes?_eq]
  exact List.mapM_pure

/-- Condensing at byte offsets succeeds, and comes to the same. -/
theorem condenseByBytes?_eq (t : Text) : condenseByBytes? t = some (condense t) := by
  rw [condenseByBytes?, readLinesByBytes?_eq, condense, contents]
  simp only [Option.bind_eq_bind, Option.bind_some, List.map_map, List.findSome?_map]
  rfl

theorem isBlankByBytes?_eq (t : Text) : isBlankByBytes? t = some (isBlank t) := by
  rw [isBlankByBytes?, readLinesByBytes?_eq, isBlank]
  simp only [Option.bind_eq_bind, Option.bind_some, List.all_map]
  rfl

end SheetLex
