import SheetLex.Layout.Condensed
import Mathlib.Data.List.TakeWhile

/-!
# What condensing keeps

Condensing a text drops the digits of its line-number hints, and padding and breaks around its
lines. `withoutHintDigits` drops the digits only, with one flag that tells whether a hint is being
read. Of characters that are neither padding nor a break, the condensed form of a text then holds
exactly those of `withoutHintDigits`, in the same order (`filter_condense_text`), and a text is
blank when `withoutHintDigits` leaves nothing but padding and breaks (`isBlank_iff`).

`withoutHintDigits` distributes over a concatenation when the flag is carried along
(`withoutHintDigits_append`); the flag is down behind any character that neither begins a hint nor
is a digit (`hintOpen_append_singleton`).
-/

set_option autoImplicit false

namespace SheetLex

/-! ## Trimming -/

namespace Text

/-- Dropping characters that a filter rejects does not show behind the filter. -/
theorem filter_dropWhile {p keep : Char → Bool} (h : ∀ c, p c = true → keep c = false)
    (t : Text) : (t.dropWhile p).filter keep = t.filter keep := by
  induction t with
  | nil => rfl
  | cons c t ih =>
    by_cases hc : p c = true
    · rw [List.dropWhile_cons_of_pos hc, ih, List.filter_cons_of_neg (by simp [h c hc])]
    · rw [List.dropWhile_cons_of_neg hc]

theorem filter_trimBy {p keep : Char → Bool} (h : ∀ c, p c = true → keep c = false)
    (t : Text) : (trimBy p t).filter keep = t.filter keep := by
  rw [trimBy, List.filter_reverse, filter_dropWhile h, List.filter_reverse, List.reverse_reverse,
    filter_dropWhile h]

/-- Trimming cuts off two pieces that satisfy the test. -/
theorem exists_trimBy (p : Char → Bool) (t : Text) :
    ∃ a b : Text, t = a ++ trimBy p t ++ b ∧ (∀ c ∈ a, p c = true) ∧ ∀ c ∈ b, p c = true := by
  refine ⟨t.takeWhile p, ((t.dropWhile p).reverse.takeWhile p).reverse, ?_, ?_, ?_⟩
  · -- what is left behind the first piece, cut once more from its other end
    have inner : t.dropWhile p =
        trimBy p t ++ ((t.dropWhile p).reverse.takeWhile p).reverse := by
      rw [trimBy, ← List.reverse_append, List.takeWhile_append_dropWhile, List.reverse_reverse]
    rw [List.append_assoc, ← inner, List.takeWhile_append_dropWhile]
  · intro c hc
    exact List.mem_takeWhile_imp hc
  · intro c hc
    exact List.mem_takeWhile_imp (List.mem_reverse.1 hc)

theorem trimBy_eq_nil_iff (p : Char → Bool) (t : Text) :
    trimBy p t = [] ↔ ∀ c ∈ t, p c = true := by
  constructor
  · intro h
    obtain ⟨a, b, ht, ha, hb⟩ := exists_trimBy p t
    rw [ht, h, List.append_nil]
    intro c hc
    rcases List.mem_append.1 hc with hc | hc
    · exact ha c hc
    · exact hb c hc
  · intro h
    have front : t.dropWhile p = [] := List.dropWhile_eq_nil_iff.2 h
    rw [trimBy, front]
    rfl

end Text

/-! ## Texts without hint digits -/

/-- The text without the digits of its hints. The flag tells whether the text begins inside a
hint, so that digits at its start belong to that hint. -/
def withoutHintDigits (inHint : Bool) : Text → Text
  | [] => []
  | c :: t =>
    if inHint && c.isDigit then withoutHintDigits true t
    else c :: withoutHintDigits (c == hintMark) t

/-- Whether a digit behind the text would belong to a hint; the flag tells whether the text
begins inside one. -/
def hintOpen (inHint : Bool) : Text → Bool
  | [] => inHint
  | c :: t => hintOpen (inHint && c.isDigit || c == hintMark) t

theorem withoutHintDigits_append (inHint : Bool) (s t : Text) :
    withoutHintDigits inHint (s ++ t) =
      withoutHintDigits inHint s ++ withoutHintDigits (hintOpen inHint s) t := by
  induction s generalizing inHint with
  | nil => rfl
  | cons c s ih =>
    rw [List.cons_append, withoutHintDigits, withoutHintDigits, hintOpen]
    -- a digit of a hint leaves the hint open; any other character opens one or not by itself
    cases hdigit : inHint && c.isDigit with
    | true => simpa using ih true
    | false => simpa using ih (c == hintMark)

/-- Behind a character that is neither a digit nor a hint mark no hint is open. -/
theorem hintOpen_append_singleton (inHint : Bool) (t : Text) {c : Char}
    (hdigit : c.isDigit = false) (hmark : c ≠ hintMark) :
    hintOpen inHint (t ++ [c]) = false := by
  induction t generalizing inHint with
  | nil => simp [hintOpen, hdigit, hmark]
  | cons d t ih => exact ih _

/-- A text that ends with a character that is neither a digit nor a hint mark closes its hints. -/
theorem hintOpen_of_getLast? {t : Text} {c : Char} (h : t.getLast? = some c)
    (hdigit : c.isDigit = false) (hmark : c ≠ hintMark) (inHint : Bool) :
    hintOpen inHint t = false := by
  obtain ⟨t, rfl⟩ := List.getLast?_eq_some_iff.1 h
  exact hintOpen_append_singleton inHint t hdigit hmark

/-- Only digits are dropped. -/
theorem mem_withoutHintDigits_of_mem {t : Text} {c : Char} (hc : c ∈ t)
    (hdigit : c.isDigit = false) (inHint : Bool) : c ∈ withoutHintDigits inHint t := by
  obtain ⟨a, b, rfl⟩ := List.append_of_mem hc
  rw [withoutHintDigits_append, withoutHintDigits]
  simp [hdigit]

/-- Outside a hint, a text without hint marks keeps all its characters. -/
theorem withoutHintDigits_of_not_mem {t : Text} (h : hintMark ∉ t) :
    withoutHintDigits false t = t := by
  induction t with
  | nil => rfl
  | cons c t ih =>
    simp only [List.mem_cons, not_or] at h
    rw [withoutHintDigits, Bool.false_and, if_neg (by decide), beq_eq_false_iff_ne.2 (Ne.symm h.1),
      ih h.2]

/-! ## The lines of a text -/

namespace Line

theorem isPadding_cases {c : Char} (h : isPadding c = true) :
    c = ' ' ∨ c = '\t' ∨ c = '\r' ∨ c = ';' := by
  simpa [isPadding, or_assoc] using h

/-- What remains of a line without its hint digits. -/
def payload (line : Line) : Text := line.text.drop line.hintDigits.length

theorem content_eq_trimBy (line : Line) : line.content = Text.trimBy isPadding line.payload := rfl

theorem payload_unmarked (t : Text) : payload ⟨false, t⟩ = t := rfl

theorem payload_digit {c : Char} (hc : c.isDigit = true) (t : Text) :
    payload ⟨true, c :: t⟩ = payload ⟨true, t⟩ := by
  simp [payload, hintDigits, hc]

theorem payload_no_digit {c : Char} (hc : c.isDigit = false) (t : Text) :
    payload ⟨true, c :: t⟩ = c :: t := by
  simp [payload, hintDigits, hc]

/-- A text begins with the same line whether a hint mark stands before it or not, the mark
itself apart. -/
theorem exists_split (t : Text) :
    ∃ (first : Text) (rest : List Line), ∀ marked, split marked t = ⟨marked, first⟩ :: rest := by
  induction t with
  | nil => exact ⟨[], [], fun _ => rfl⟩
  | cons c t ih =>
    obtain ⟨first, rest, h⟩ := ih
    by_cases hfeed : c = '\n'
    · exact ⟨[], split false t, fun marked => by simp [split, hfeed]⟩
    by_cases hmark : c = hintMark
    · exact ⟨[], split true t, fun marked => by simp [split, hmark, hintMark]⟩
    · exact ⟨c :: first, rest, fun marked => by simp [split, hfeed, hmark, h, consFirst]⟩

/-- Of characters other than breaks, the lines together hold those of the text, hint digits
apart. -/
theorem flatMap_payload_split {keep : Char → Bool} (hfeed : keep '\n' = false)
    (hmark : keep hintMark = false) (t : Text) (marked : Bool) :
    ((split marked t).flatMap fun line => line.payload.filter keep) =
      (withoutHintDigits marked t).filter keep := by
  induction t generalizing marked with
  | nil => cases marked <;> rfl
  | cons c t ih =>
    have empty : payload ⟨marked, []⟩ = [] := by cases marked <;> rfl
    by_cases hc : c = '\n'
    · -- a line feed ends the first line, which is empty, and begins an unmarked one
      subst hc
      have hdigit : ('\n' : Char).isDigit = false := rfl
      simp [split, withoutHintDigits, empty, ih, hdigit, hfeed, hintMark]
    by_cases hc' : c = hintMark
    · -- a hint mark ends it as well, and begins a marked one
      subst hc'
      have hdigit : hintMark.isDigit = false := rfl
      simp [split, withoutHintDigits, empty, ih, hdigit, hmark, hc]
    -- any other character goes in front of the first line of the rest
    obtain ⟨first, rest, hsplit⟩ := exists_split t
    have step : split marked (c :: t) = ⟨marked, c :: first⟩ :: rest := by
      simp [split, hc, hc', hsplit, consFirst]
    have inHint := ih true
    have outside := ih false
    rw [hsplit, List.flatMap_cons] at inHint outside
    rw [step, List.flatMap_cons, withoutHintDigits, beq_eq_false_iff_ne.2 hc']
    cases marked with
    | false =>
      rw [payload_unmarked] at outside ⊢
      rw [Bool.false_and, if_neg (by decide), List.filter_cons, List.filter_cons, ← outside]
      split <;> rfl
    | true =>
      cases hdigit : c.isDigit with
      | true =>
        rw [payload_digit hdigit, Bool.and_self, if_pos rfl]
        exact inHint
      | false =>
        -- the hint ends here, so the rest of the line is read as an unmarked one
        rw [payload_unmarked] at outside
        rw [payload_no_digit hdigit, Bool.and_false, if_neg (by decide), List.filter_cons,
          List.filter_cons, ← outside]
        split <;> rfl

/-- A line holds no break. -/
theorem not_break_of_mem_split {marked : Bool} {t : Text} {line : Line}
    (h : line ∈ split marked t) : ∀ c ∈ line.text, c ≠ '\n' ∧ c ≠ hintMark := by
  induction t generalizing marked line with
  | nil =>
    obtain rfl : line = ⟨marked, []⟩ := by simpa [split] using h
    simp
  | cons c t ih =>
    rw [split] at h
    split at h
    · rcases List.mem_cons.1 h with rfl | h
      · simp
      · exact ih h
    · split at h
      · rcases List.mem_cons.1 h with rfl | h
        · simp
        · exact ih h
      · rename_i hfeed hmark
        obtain ⟨first, rest, hsplit⟩ := exists_split t
        rw [hsplit marked, consFirst] at h
        rcases List.mem_cons.1 h with rfl | h
        · intro d hd
          rcases List.mem_cons.1 hd with rfl | hd
          · exact ⟨hfeed, hmark⟩
          · exact ih (hsplit marked ▸ List.mem_cons_self) d hd
        · exact ih (hsplit marked ▸ List.mem_cons_of_mem _ h)

end Line

/-! ## Condensed texts -/

theorem filter_intercalate {keep : Char → Bool} (hfeed : keep '\n' = false)
    (pieces : List Text) :
    (['\n'].intercalate pieces).filter keep = pieces.flatMap (List.filter keep) := by
  induction pieces with
  | nil => rfl
  | cons t pieces ih =>
    cases pieces with
    | nil => simp [List.intercalate]
    | cons u pieces =>
      rw [List.flatMap_cons, ← ih]
      simp [List.intercalate, List.intersperse, hfeed]

/-- Lines without content contribute nothing. -/
theorem flatMap_contents (keep : Char → Bool) (t : Text) :
    (contents t).flatMap (List.filter keep) =
      (lines t).flatMap fun line => line.content.filter keep := by
  rw [contents]
  induction lines t with
  | nil => rfl
  | cons line rest ih =>
    rw [List.map_cons, List.filter_cons, List.flatMap_cons, ← ih]
    cases hcontent : line.content with
    | nil => rfl
    | cons c content => rfl

/-- Of characters that are neither padding nor a break, condensing keeps exactly those outside
hints, in order. -/
theorem filter_condense_text {keep : Char → Bool}
    (hpadding : ∀ c, Line.isPadding c = true → keep c = false) (hfeed : keep '\n' = false)
    (hmark : keep hintMark = false) (t : Text) :
    (condense t).text.filter keep = (withoutHintDigits false t).filter keep := by
  rw [condense, filter_intercalate hfeed, flatMap_contents,
    ← Line.flatMap_payload_split hfeed hmark]
  exact congrArg (fun f => (lines t).flatMap f)
    (funext fun line => Text.filter_trimBy hpadding line.payload)

/-! ## Blank texts -/

/-- Characters that leave a text blank: padding and breaks. -/
def isBlankChar (c : Char) : Bool := Line.isPadding c || c == '\n' || c == hintMark

theorem isBlank_iff (t : Text) :
    isBlank t = true ↔ ∀ c ∈ withoutHintDigits false t, isBlankChar c = true := by
  -- the characters that are not blank are the same in the text and in its lines
  have ink := @Line.flatMap_payload_split (fun c => !isBlankChar c) rfl rfl t false
  have key : (∀ c ∈ withoutHintDigits false t, isBlankChar c = true) ↔
      ∀ line ∈ lines t, ∀ c ∈ line.payload, isBlankChar c = true := by
    have hnil : (withoutHintDigits false t).filter (fun c => !isBlankChar c) = [] ↔
        ∀ c ∈ withoutHintDigits false t, isBlankChar c = true := by
      simp [List.filter_eq_nil_iff]
    rw [← hnil, ← ink, List.flatMap_eq_nil_iff]
    simp [List.filter_eq_nil_iff, lines]
  -- a line is blank if its payload is: breaks do not occur in it
  rw [key, isBlank, List.all_eq_true]
  apply forall₂_congr
  intro line hline
  rw [List.isEmpty_iff, Line.content_eq_trimBy, Text.trimBy_eq_nil_iff]
  apply forall₂_congr
  intro c hc
  obtain ⟨hfeed, hmark⟩ := Line.not_break_of_mem_split hline c (List.mem_of_mem_drop hc)
  simp [isBlankChar, hfeed, hmark]

theorem isBlank_nil : isBlank [] = true := rfl

/-- A text is blank exactly when its condensed form is empty. -/
theorem condense_isEmpty (t : Text) : (condense t).isEmpty = isBlank t := by
  have hmem : ∀ content ∈ contents t, content ≠ [] := by
    intro content h
    simpa using (List.mem_filter.1 h).2
  have hcontents : contents t = [] ↔ isBlank t = true := by
    simp [contents, isBlank, List.filter_eq_nil_iff]
  rw [Bool.eq_iff_iff, ← hcontents, Condensed.isEmpty, condense, List.isEmpty_iff]
  match contents t, hmem with
  | [], _ => simp [List.intercalate]
  | [content], hmem => simpa [List.intercalate] using hmem content (by simp)
  | content :: next :: rest, hmem => simp [List.intercalate, List.intersperse]

/-- The beginning of a blank text is blank. -/
theorem isBlank_of_append {s t : Text} (h : isBlank (s ++ t) = true) : isBlank s = true := by
  rw [isBlank_iff, withoutHintDigits_append] at h
  rw [isBlank_iff]
  intro c hc
  exact h c (List.mem_append_left _ hc)

/-- A character that is no digit, no padding and no break makes a text not blank. -/
theorem isBlank_eq_false_of_mem {t : Text} {c : Char} (hc : c ∈ t) (hdigit : c.isDigit = false)
    (hblank : isBlankChar c = false) : isBlank t = false := by
  rw [← Bool.not_eq_true, isBlank_iff]
  intro h
  have := h c (mem_withoutHintDigits_of_mem hc hdigit false)
  rw [hblank] at this
  exact Bool.false_ne_true this

end SheetLex
