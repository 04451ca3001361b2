import SheetLex.Proofs.Block.Pass
import SheetLex.Audit.Blocks
import Mathlib.Data.List.Basic
import Mathlib.Tactic.IntervalCases

/-!
# Division into blocks keeps the content

The content of a source are its characters that are neither white space nor semicolons, braces or
hint marks, the digits of hints apart (`contentOf`). Collected over the blocks of a source and of
all bodies in it, the content of the selectors is the content of the source, each character once
and in order, whichever way bodies are trimmed (`sourceContent_eq_contentOf`).

Content is additive over pieces (`contentOf_flatMap_text`): a piece ends with its closing
character or with a line feed, so a hint never goes on from one piece into the next. The audits of
a division therefore find no fault.
-/

set_option autoImplicit false

namespace SheetLex

/-! ## The content of a text -/

/-- The characters of a text that are content, the digits of its hints apart. -/
def contentOf (t : Text) : Text := (withoutHintDigits false t).filter isContent

theorem isContent_of_isPadding (c : Char) (h : Line.isPadding c = true) : isContent c = false := by
  rcases Line.isPadding_cases h with rfl | rfl | rfl | rfl <;> decide

/-- Condensing keeps the content. -/
theorem filter_condense_eq_contentOf (t : Text) :
    (condense t).text.filter isContent = contentOf t :=
  filter_condense_text isContent_of_isPadding (by decide) (by decide) t

theorem contentOf_append {s : Text} (h : hintOpen false s = false) (t : Text) :
    contentOf (s ++ t) = contentOf s ++ contentOf t := by
  rw [contentOf, withoutHintDigits_append, h, List.filter_append]
  rfl

/-- A character that is no content, no digit and no hint mark separates contents. -/
theorem contentOf_append_cons (s : Text) {c : Char} (t : Text) (hdigit : c.isDigit = false)
    (hmark : c ≠ hintMark) (hc : isContent c = false) :
    contentOf (s ++ c :: t) = contentOf s ++ contentOf t := by
  have hlast : contentOf (s ++ [c]) = contentOf s := by
    rw [contentOf, withoutHintDigits_append, withoutHintDigits]
    simp [contentOf, hdigit, hc, withoutHintDigits]
  rw [← List.singleton_append, ← List.append_assoc,
    contentOf_append (hintOpen_append_singleton false s hdigit hmark), hlast]

theorem not_isDigit_of_isWhiteSpace {c : Char} (h : Unicode.isWhiteSpace c = true) :
    c.isDigit = false := by
  rw [Bool.eq_false_iff]
  intro hdigit
  have hrange : 48 ≤ c.toNat ∧ c.toNat ≤ 57 := by
    simpa [Char.isDigit, UInt32.le_iff_toNat_le] using hdigit
  -- none of the ten digits is white space
  obtain ⟨n, ⟨hlow, hhigh⟩, rfl⟩ : ∃ n, (48 ≤ n ∧ n ≤ 57) ∧ c = Char.ofNat n :=
    ⟨c.toNat, hrange, (Char.ofNat_toNat c).symm⟩
  interval_cases n <;> exact absurd h (by decide)

theorem isContent_of_isWhiteSpace {c : Char} (h : Unicode.isWhiteSpace c = true) :
    isContent c = false := by
  rw [isContent, h]
  rfl

/-- Trimming white space keeps the content: it cuts off no digit of a hint. -/
theorem contentOf_trim (t : Text) : contentOf (Text.trim t) = contentOf t := by
  have hmark : ∀ c, Unicode.isWhiteSpace c = true → c ≠ hintMark := by
    rintro c hc rfl
    exact absurd hc (by decide)
  -- what is cut off in front, character by character
  have front (a u : Text) (ha : ∀ c ∈ a, Unicode.isWhiteSpace c = true) :
      contentOf (a ++ u) = contentOf u := by
    induction a with
    | nil => rfl
    | cons c a ih =>
      have hc := ha c List.mem_cons_self
      have hcons := contentOf_append_cons [] (a ++ u) (not_isDigit_of_isWhiteSpace hc) (hmark c hc)
        (isContent_of_isWhiteSpace hc)
      rw [List.cons_append, ← ih fun d hd => ha d (List.mem_cons_of_mem c hd)]
      exact hcons
  -- what is cut off behind, beginning with the last character
  have back (u b : Text) (hb : ∀ c ∈ b, Unicode.isWhiteSpace c = true) :
      contentOf (u ++ b) = contentOf u := by
    induction b using List.reverseRecOn with
    | nil => rw [List.append_nil]
    | append_singleton b c ih =>
      have hc := hb c (by simp)
      have hlast := contentOf_append_cons (u ++ b) [] (not_isDigit_of_isWhiteSpace hc) (hmark c hc)
        (isContent_of_isWhiteSpace hc)
      rw [← List.append_assoc, hlast, ih fun d hd => hb d (List.mem_append_left _ hd)]
      exact List.append_nil _
  obtain ⟨a, b, ht, ha, hb⟩ := Text.exists_trimBy Unicode.isWhiteSpace t
  conv_rhs => rw [ht]
  rw [back _ b hb, front a _ ha]
  rfl

theorem contentOf_bodyText (options : SplitOptions) (body : Text) :
    contentOf (options.bodyText body) = contentOf body := by
  rw [SplitOptions.bodyText]
  split
  · rfl
  · exact contentOf_trim body

/-- A blank text has no content. -/
theorem contentOf_eq_nil_of_isBlank {t : Text} (h : isBlank t = true) : contentOf t = [] := by
  rw [← filter_condense_eq_contentOf]
  rw [← condense_isEmpty, Condensed.isEmpty, List.isEmpty_iff] at h
  rw [h]
  rfl

/-! ## The content of pieces -/

/-- A piece that a character ends leaves no hint open: its text ends with that character, or
with the line feed behind which the selector of a rule begins. -/
theorem hintOpen_text_of_mem_pieces {source : Text} {p : Piece}
    (hp : p ∈ ({} : Cutter).pieces source) : hintOpen false p.text = false := by
  apply Cutter.forall_mem_pieces (P := fun p => hintOpen false p.text = false) ?_
    Cutter.sound_start hp
  intro k c p place hsound hstep
  cases hstep with
  | declare p hp hfree hc => exact hintOpen_append_singleton false p.text (by decide) (by decide)
  | openRule p hp hfree hc hhash =>
    -- the head of such a piece is the lead, which ends with a line feed
    change hintOpen false (p.settle.lead ++ []) = false
    rw [List.append_nil]
    rcases (hsound.pending hp).1.settle.lead_end with hlead | hlead
    · rw [hlead]
      rfl
    · exact hintOpen_of_getLast? hlead (by decide) (by decide) false
  | closeRule selector body hp hbalance hc =>
    change hintOpen false (selector ++ '{' :: (body ++ ['}'])) = false
    rw [← List.cons_append, ← List.append_assoc]
    exact hintOpen_append_singleton false _ (by decide) (by decide)

/-- The content of a piece is that of its head and of its body. -/
theorem contentOf_text (p : Piece) :
    contentOf p.text = contentOf p.head ++ (p.body.map contentOf).getD [] := by
  -- the closing character, there or not, is no content
  have hclose (t : Text) {c : Char} (hdigit : c.isDigit = false) (hmark : c ≠ hintMark)
      (hc : isContent c = false) (closed : Bool) :
      contentOf (t ++ if closed then [c] else []) = contentOf t := by
    cases closed with
    | false => exact congrArg contentOf (List.append_nil t)
    | true => exact (contentOf_append_cons t [] hdigit hmark hc).trans (List.append_nil _)
  rw [Piece.text]
  cases p.body with
  | none =>
    simp only
    rw [hclose p.head (by decide) (by decide) (by decide)]
    exact (List.append_nil _).symm
  | some body =>
    simp only
    rw [contentOf_append_cons p.head _ (by decide) (by decide) (by decide),
      hclose body (by decide) (by decide) (by decide)]
    rfl

/-- Content is additive over pieces that leave no hint open. -/
theorem contentOf_flatMap_text {ps : List Piece} (h : ∀ p ∈ ps, hintOpen false p.text = false)
    (t : Text) :
    contentOf (ps.flatMap Piece.text ++ t) =
      (ps.flatMap fun p => contentOf p.text) ++ contentOf t := by
  induction ps with
  | nil => rfl
  | cons p ps ih =>
    rw [List.flatMap_cons, List.flatMap_cons, List.append_assoc, List.append_assoc,
      contentOf_append (h p List.mem_cons_self), ih fun q hq => h q (List.mem_cons_of_mem p hq)]

/-- The content of a source is that of its pieces. -/
theorem contentOf_eq_flatMap_pieces (source : Text) :
    contentOf source = (pieces source).flatMap fun p => contentOf p.text := by
  -- the last piece may leave a hint open, but nothing follows it
  have htext := flatMap_text_pieces source
  rw [pieces, Cutter.allPieces, List.flatMap_append, List.flatMap_singleton] at htext
  conv_lhs => rw [← htext]
  rw [contentOf_flatMap_text fun p hp => hintOpen_text_of_mem_pieces hp, pieces, Cutter.allPieces,
    List.flatMap_append, List.flatMap_singleton]

/-! ## Bodies -/

section Bodies

variable {options : SplitOptions} {source : Text} {b : Block} {body : Text}

/-- The body of a block lies in its source, behind a brace at least. -/
theorem exists_body_of_mem_splitBlocks (hb : b ∈ splitBlocks source options)
    (hbody : b.body = some body) : ∃ x y : Text, x ≠ [] ∧ source = x ++ body ++ y := by
  rw [splitBlocks_eq_report] at hb
  obtain ⟨p, hp, -, line, rfl⟩ := exists_piece_of_mem_report hb
  obtain ⟨inner, hinner, rfl⟩ := Option.map_eq_some_iff.1 hbody
  exact exists_bodyText_of_mem_pieces hp hinner options

theorem byteLength_pos {t : Text} (h : t ≠ []) : 0 < Text.byteLength t :=
  Nat.lt_of_lt_of_le (List.length_pos_iff.2 h) (Text.length_le_byteLength t)

/-- A body is shorter than its source, in bytes. -/
theorem byteLength_body_lt (hb : b ∈ splitBlocks source options) (hbody : b.body = some body) :
    Text.byteLength body < Text.byteLength source := by
  obtain ⟨x, y, hx, hsource⟩ := exists_body_of_mem_splitBlocks hb hbody
  have hpos := byteLength_pos hx
  rw [hsource, Text.byteLength_append, Text.byteLength_append]
  omega

/-- A body is shorter than its source, in characters. -/
theorem length_body_lt (hb : b ∈ splitBlocks source options) (hbody : b.body = some body) :
    body.length < source.length := by
  obtain ⟨x, y, hx, hsource⟩ := exists_body_of_mem_splitBlocks hb hbody
  have hpos := List.length_pos_iff.2 hx
  rw [hsource, List.length_append, List.length_append]
  omega

end Bodies

/-! ## The content of a division -/

/-- The content of a source is collected block by block, for each block first from its selector
and then from its body. -/
theorem sourceContent_eq (options : SplitOptions) (source : Text) :
    sourceContent options source = (splitBlocks source options).flatMap fun b =>
      b.selector.filter isContent ++ (b.body.map (sourceContent options)).getD [] := by
  rw [sourceContent]
  apply List.flatMap_congr
  intro b hb
  cases hbody : b.body with
  | none => rfl
  | some body =>
    simp only [if_pos (length_body_lt hb hbody)]
    rfl

/-- The blocks of a source hold its content. -/
theorem sourceContent_eq_contentOf (options : SplitOptions) (source : Text) :
    sourceContent options source = contentOf source := by
  induction hlength : source.length using Nat.strong_induction_on generalizing source with
  | h n ih =>
    -- what the body of a piece contributes, by induction on the length of the source
    have hshorter (p : Piece) (hp : p ∈ pieces source) {body : Text} (hbody : p.body = some body) :
        sourceContent options (options.bodyText body) = contentOf body := by
      obtain ⟨x, y, hx, hsource⟩ := exists_bodyText_of_mem_pieces hp hbody options
      have hpos := List.length_pos_iff.2 hx
      have hlt : (options.bodyText body).length < n := by
        rw [← hlength, hsource, List.length_append, List.length_append]
        omega
      rw [ih _ hlt _ rfl, contentOf_bodyText]
    rw [sourceContent_eq, splitBlocks_eq_report, contentOf_eq_flatMap_pieces]
    apply flatMap_report
    · -- a silent piece is blank and has no body
      intro p hp hsilent
      obtain ⟨hbody, hblank⟩ := (Bool.and_eq_true _ _).mp hsilent
      rw [contentOf_text, contentOf_eq_nil_of_isBlank hblank, Option.isNone_iff_eq_none.1 hbody]
      rfl
    · intro p hp line
      rw [contentOf_text, Piece.block, filter_condense_eq_contentOf]
      cases hbody : p.body with
      | none => rfl
      | some body =>
        simp only [Option.map_some, Option.getD_some]
        rw [hshorter p hp hbody]

/-! ## Audits -/

section Audits

open Splitter

variable {source : Text} {options : SplitOptions} {s : SplitterState} {bs : List Block} {line : Nat}

/-- The blocks that report an open construct. -/
def reported (bs : List Block) : List Block := bs.filter fun b => b.error?.isSome

/-- An audit of a pass gives its blocks, if one of them at most reports an open construct. -/
theorem auditPass_of_pass (h : Pass source options s bs line) :
    ∀ bound errors, bs.length < bound → errors + (reported bs).length ≤ 1 →
      auditPass bound errors ⟨source, options, s⟩ = .ok bs := by
  induction h with
  | finish hnext =>
    intro bound errors hbound herrors
    obtain ⟨bound, rfl⟩ := Nat.exists_eq_succ_of_ne_zero (Nat.ne_of_gt hbound)
    have hfew : ¬ 1 < errors := by
      rw [reported, List.filter_nil, List.length_nil] at herrors
      omega
    rw [auditPass, hnext]
    simp only
    rw [if_pos (show (Block.finish _).isEnd = true from rfl), if_neg hfew,
      if_neg (by simp [Splitter.position])]
  | block hnext hend hrest ih =>
    rename_i s s' b bs line
    intro bound errors hbound herrors
    obtain ⟨bound, rfl⟩ :=
      Nat.exists_eq_succ_of_ne_zero (Nat.ne_of_gt (Nat.lt_of_le_of_lt (Nat.zero_le _) hbound))
    have hcount : (if b.error?.isSome then errors + 1 else errors) + (reported bs).length ≤ 1 := by
      rw [reported, List.filter_cons] at herrors
      split at herrors
      · rename_i herror
        rw [if_pos herror]
        rw [List.length_cons] at herrors
        rw [reported]
        omega
      · rename_i herror
        rwa [if_neg herror]
    rw [auditPass, hnext]
    simp only [hend]
    rw [if_neg Bool.false_ne_true, ih bound _ (Nat.lt_of_succ_lt_succ hbound) hcount]
    rfl

/-- The pieces before the last one report nothing. -/
theorem error?_of_mem_report_pieces {b : Block}
    (h : b ∈ report options line (({} : Cutter).pieces source)) : b.error? = none := by
  obtain ⟨p, hp, -, line', rfl⟩ := exists_piece_of_mem_report h
  rw [Piece.block, Cutter.cause_of_mem_pieces Cutter.sound_start hp]
  rfl

/-- A pass reports one open construct at most: only the last piece has one. -/
theorem length_reported_splitBlocks (options : SplitOptions) (source : Text) :
    (reported (splitBlocks source options)).length ≤ 1 := by
  have hquiet (line : Nat) :
      reported (report options line (({} : Cutter).pieces source)) = [] := by
    rw [reported, List.filter_eq_nil_iff]
    intro b hb
    rw [error?_of_mem_report_pieces hb]
    exact Bool.false_ne_true
  rw [splitBlocks_eq_report, pieces, Cutter.allPieces, report_append, reported, List.filter_append]
  rw [← reported, hquiet, List.nil_append]
  exact (List.length_filter_le _ _).trans (length_report_le options _ [_])

theorem auditPass_splitBlocks (options : SplitOptions) (source : Text) :
    auditPass (Text.byteLength source + 3) 0 (.ofSource source options) =
      .ok (splitBlocks source options) := by
  have hlength := length_report_le options 0 (pieces source)
  have hpieces := length_pieces_le source
  have hbytes := Text.length_le_byteLength source
  have hreported := length_reported_splitBlocks options source
  have hpass := pass_pieces source options
  rw [← splitBlocks_eq_report] at hpass hlength
  exact auditPass_of_pass hpass _ 0 (by omega) (by omega)

end Audits

theorem ok_bind {α β ε : Type} (a : α) (f : α → Except ε β) : (Except.ok a >>= f) = f a := rfl

/-- If a step succeeds on every element of a list, it succeeds on the list. -/
theorem mapM_eq_ok {α β ε : Type} {f : α → Except ε β} {g : α → β} {l : List α}
    (h : ∀ a ∈ l, f a = .ok (g a)) : l.mapM f = .ok (l.map g) := by
  induction l with
  | nil => rfl
  | cons a l ih =>
    rw [List.mapM_cons, h a List.mem_cons_self, ih fun b hb => h b (List.mem_cons_of_mem a hb)]
    rfl

/-- Watching a division on all levels finds no fault and collects its content. -/
theorem auditContent_eq (options : SplitOptions) (source : Text) :
    auditContent options source = .ok (sourceContent options source) := by
  induction hlength : Text.byteLength source using Nat.strong_induction_on
    generalizing source with
  | h n ih =>
    rw [auditContent, auditPass_splitBlocks, sourceContent_eq, List.flatMap, ok_bind]
    rw [mapM_eq_ok (g := fun b =>
      b.selector.filter isContent ++ (b.body.map (sourceContent options)).getD [])]
    · rfl
    · intro b hb
      cases hbody : b.body with
      | none =>
        simp only [Option.map_none, Option.getD_none, List.append_nil]
        rfl
      | some body =>
        have hlt := byteLength_body_lt hb hbody
        simp only
        rw [if_pos hlt, ih _ (hlength ▸ hlt) body rfl]
        rfl

/-- Division into blocks loses no content, adds none and moves none: bodies get shorter, so that
content can be collected from all levels, and what is collected from a source is its content. An
audit of a division finds no fault. -/
theorem content_preserved (options : SplitOptions) (source : Text) :
    (∀ b ∈ splitBlocks source options, ∀ body, b.body = some body →
      Text.byteLength body < Text.byteLength source) ∧
    sourceContent options source = ((splitBlocks source options).flatMap fun b =>
      b.selector.filter isContent ++ (b.body.map (sourceContent options)).getD []) ∧
    sourceContent options source = contentOf source ∧
    auditBlocks options source = .ok () := by
  refine ⟨fun b hb body => byteLength_body_lt hb, sourceContent_eq options source,
    sourceContent_eq_contentOf options source, ?_⟩
  rw [auditBlocks, auditContent_eq, sourceContent_eq_contentOf]
  change (if source.contains hintMark then _ else _) = _
  split
  · rfl
  · -- without hint marks the content is the characters that are content
    rename_i hmark
    have hmem : hintMark ∉ source := by simpa using hmark
    rw [contentOf, withoutHintDigits_of_not_mem hmem, if_pos rfl]
    rfl

end SheetLex
