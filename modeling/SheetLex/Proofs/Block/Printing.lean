import SheetLex.Proofs.Block.Condensing
import SheetLex.Proofs.Block.Concatenation

/-!
# Printing blocks

`printBlocks` writes blocks as a source: a declaration is its text and a semicolon, a rule its
selector, a space, and its body between braces. The blocks of a source without hint marks that
leaves nothing open are those of their printed form (`splitBlocks_printBlocks`), so the printed
form is a normal form of such a source.

The cutter is back at its start behind each printed block, whose pieces yield that block and no
other (`Reprints`). Blocks are handed out condensed, and their bodies perhaps trimmed; neither
changes anything if it is done once more.
-/

set_option autoImplicit false

namespace SheetLex

/-! ## Printed blocks -/

/-- A block as a source. -/
def Block.print (b : Block) : Text :=
  match b.body with
  | none => b.selector ++ [';']
  | some body => b.selector ++ [' '] ++ '{' :: (body ++ ['}'])

/-- Blocks as a source, one directly behind the other. -/
def printBlocks (bs : List Block) : Text := bs.flatMap Block.print

/-- Reading the printed block gives the block, and leaves the cutter at its start. -/
structure Reprints (options : SplitOptions) (b : Block) : Prop where
  after : ({} : Cutter).after b.print = {}
  report : report options 0 (({} : Cutter).pieces b.print) = [b]
  line : b.line = 0

/-- Blocks of which each can be printed and read can be so one after the other. -/
theorem splitBlocks_of_reprints {options : SplitOptions} {bs : List Block}
    (h : ∀ b ∈ bs, Reprints options b) : splitBlocks (printBlocks bs) options = bs := by
  induction bs with
  | nil =>
    rw [splitBlocks_eq_report]
    rfl
  | cons b bs ih =>
    have hb := h b List.mem_cons_self
    have hrest := ih fun b' hb' => h b' (List.mem_cons_of_mem b hb')
    have hprint : printBlocks (b :: bs) = b.print ++ printBlocks bs := List.flatMap_cons
    rw [splitBlocks_eq_report] at hrest ⊢
    have hline : lineBehind 0 (({} : Cutter).pieces b.print) = 0 := by
      rw [lineBehind_eq options, hb.report]
      exact hb.line
    rw [hprint, pieces, Cutter.allPieces_append, hb.after, report_append, hb.report, hline]
    exact congrArg (List.cons b) hrest

/-! ## Reading a printed block -/

namespace Cutter

theorem read_declaration {t : Text} (huncut : Uncut t) (hfree : Balance.after t = .free) :
    ({} : Cutter).pieces (t ++ [';']) = [{ head := t, closed := true }] ∧
      ({} : Cutter).after (t ++ [';']) = {} := by
  obtain ⟨hpieces, hafter⟩ := after_of_uncut huncut
  have hread := read_semicolon (k := ⟨Balance.after t, .outside (Pending.ofText t)⟩) rfl hfree
  rw [Pending.text_ofText] at hread
  rw [pieces_append, after_concat, hpieces, hafter, pieces_cons, hread]
  exact ⟨rfl, rfl⟩

/-- A brace cuts the text before it in two, and the brace that closes the rule ends its body. -/
theorem read_rule {t body : Text} (huncut : Uncut t) (hfree : Balance.after t = .free)
    (hhash : t.getLast? ≠ some '#') (hwithin : Balance.free.StaysWithin body)
    (hbody : Balance.after body = .free) :
    ({} : Cutter).pieces (t ++ '{' :: (body ++ ['}'])) =
        [{ head := (Pending.ofText t).settle.lead },
          { head := (Pending.ofText t).settle.selector, body := some body, closed := true }] ∧
      ({} : Cutter).after (t ++ '{' :: (body ++ ['}'])) = {} := by
  obtain ⟨hpieces, hafter⟩ := after_of_uncut huncut
  have hopen := read_leftBrace (k := ⟨Balance.after t, .outside (Pending.ofText t)⟩) rfl hfree
    (by rw [Pending.text_ofText]; exact hhash)
  generalize (Pending.ofText t).settle.lead = lead at hopen ⊢
  generalize (Pending.ofText t).settle.selector = selector at hopen ⊢
  have hplace : (⟨{ depth := 1 }, .inside selector []⟩ : Cutter).place = .inside selector [] := rfl
  obtain ⟨hinside, hend⟩ := after_of_staysWithin (b := .free) hplace rfl hwithin
  have hbalance : Balance.free.readAll body = .free := hbody
  rw [hbalance, List.nil_append] at hend
  have hclose := read_rightBrace (k := ⟨Balance.free.deepen, .inside selector body⟩) rfl rfl
  rw [pieces_append, after_append, hpieces, hafter, pieces_cons, after_cons, hopen]
  simp only
  rw [pieces_append, after_append, hinside, hend, pieces_cons, after_cons, hclose]
  exact ⟨rfl, rfl⟩

end Cutter

/-- Without a lead, the whole text before the brace is the selector. -/
theorem Pending.selector_of_lead_nil {t : Text} (hlead : (ofText t).settle.lead = []) :
    (ofText t).settle.selector = t := by
  have htext := (ofText t).settle.lead_append_selector
  rw [hlead, text_settle, text_ofText] at htext
  exact htext

/-! ## Bodies and selectors as they are handed out -/

theorem SplitOptions.bodyText_bodyText (options : SplitOptions) (body : Text) :
    options.bodyText (options.bodyText body) = options.bodyText body := by
  rw [bodyText, bodyText]
  split
  · rfl
  · exact Text.trimBy_trimBy Unicode.isWhiteSpace body

/-- The blocks of pieces without hints have the line number in force before them. -/
theorem line_of_mem_report {options : SplitOptions} {line : Nat} {ps : List Piece}
    (h : ∀ p ∈ ps, p.hint? = none) {b : Block} (hb : b ∈ report options line ps) :
    b.line = line := by
  induction ps with
  | nil => cases hb
  | cons p ps ih =>
    have hp := h p List.mem_cons_self
    have hline : (p.yield options line).2 = line := by
      rw [Piece.yield, hp]
      split <;> rfl
    rw [report_cons, hline, List.mem_append, Option.mem_toList] at hb
    rcases hb with hb | hb
    · rw [Piece.yield] at hb
      split at hb
      · cases hb
      · obtain rfl := Option.some.inj hb
        rw [Piece.block, hp]
        rfl
    · exact ih (fun q hq => h q (List.mem_cons_of_mem p hq)) hb

/-! ## Blocks that can be printed and read -/

section Reprints

variable {options : SplitOptions} {t body : Text}

theorem reprints_declaration (hcondense : condense t = ⟨t, none⟩) (hne : t ≠ [])
    (huncut : Uncut t) (hfree : Balance.after t = .free) :
    Reprints options ⟨.complete, 0, t, none⟩ := by
  obtain ⟨hpieces, hafter⟩ := Cutter.read_declaration huncut hfree
  refine ⟨hafter, ?_, rfl⟩
  have hsilent : Piece.isSilent { head := t, closed := true } = false := by
    have hblank : isBlank t = false := by
      rw [Bool.eq_false_iff, Ne, ← condense_text_eq_nil_iff, hcondense]
      exact hne
    simpa [Piece.isSilent] using hblank
  change report options 0 (({} : Cutter).pieces (t ++ [';'])) = _
  rw [hpieces, report_cons, Piece.yield_of_not_isSilent hsilent]
  simp [Piece.block, Piece.hint?, hcondense, report]

theorem reprints_rule (hcondense : condense t = ⟨t, none⟩) (huncut : Uncut t)
    (hfree : Balance.after t = .free) (hlead : (Pending.ofText (t ++ [' '])).settle.lead = [])
    (hwithin : Balance.free.StaysWithin body) (hbodyFree : Balance.after body = .free)
    (hbody : options.bodyText body = body) :
    Reprints options ⟨.complete, 0, t, some body⟩ := by
  -- the space before the brace is read with the selector, and condensed away
  have hpasses : Passes t ' ' := fun _ => ⟨by decide, fun h => by cases h⟩
  have hfree' : Balance.after (t ++ [' ']) = .free := by
    rw [Balance.after_concat, Balance.read_of_isMargin rfl, hfree]
  have hcondense' : condense (t ++ [' ']) = ⟨t, none⟩ := by
    rw [condense_concat rfl, hcondense]
  obtain ⟨hpieces, hafter⟩ := Cutter.read_rule (uncut_concat.2 ⟨huncut, hpasses⟩) hfree'
    (by rw [List.getLast?_concat]; decide) hwithin hbodyFree
  rw [hlead, Pending.selector_of_lead_nil hlead] at hpieces
  refine ⟨hafter, ?_, rfl⟩
  change report options 0 (({} : Cutter).pieces (t ++ [' '] ++ '{' :: (body ++ ['}']))) = _
  rw [hpieces, report_cons, Piece.yield_of_isSilent rfl, report_cons,
    Piece.yield_of_not_isSilent rfl]
  simp [Piece.block, Piece.hint?, hcondense', hbody, report]

end Reprints

/-- The block of a piece can be printed and read, if the head can be read from the start and the
body, if there is one, leaves nothing open and closes nothing that it has not opened. -/
theorem Piece.Rereads.reprints {p : Piece} (h : p.Rereads) (options : SplitOptions)
    (hmark : hintMark ∉ p.head) (hcause : p.cause = none) (hsilent : p.isSilent = false)
    (hbody : ∀ body, p.body = some body →
      Balance.free.StaysWithin body ∧ Balance.after body = .free) :
    Reprints options (p.block options 0) := by
  obtain ⟨huncut, hafter⟩ := uncut_condense hmark h.uncut
  rw [h.free] at hafter
  have hcondense := condense_condense p.head
  have hblock : p.block options 0 =
      ⟨.complete, 0, (condense p.head).text, p.body.map options.bodyText⟩ := by
    rw [Piece.block, hcause, show p.hint? = none from line_condense hmark]
    rfl
  rw [hblock]
  cases hp : p.body with
  | none =>
    apply reprints_declaration hcondense ?_ huncut hafter
    rw [Piece.isSilent, hp] at hsilent
    rw [Ne, condense_text_eq_nil_iff, Bool.not_eq_true]
    exact hsilent
  | some body =>
    obtain ⟨hwithin, hbodyFree⟩ := hbody body hp
    apply reprints_rule hcondense huncut hafter
    · apply (lead_condense hmark ?_).2 (h.lead (by rw [hp]; rfl))
      intro c hc
      obtain rfl := List.mem_singleton.1 hc
      rfl
    · exact (Balance.staysWithin_bodyText options).2 hwithin
    · exact (Balance.after_bodyText options body).trans hbodyFree
    · exact options.bodyText_bodyText body

/-- The blocks of a source without hint marks, none of which reports an open construct, are the
blocks of their printed form. -/
theorem splitBlocks_printBlocks {options : SplitOptions} {source : Text}
    (hmark : hintMark ∉ source) (h : ∀ b ∈ splitBlocks source options, b.error? = none) :
    splitBlocks (printBlocks (splitBlocks source options)) options =
      splitBlocks source options := by
  apply splitBlocks_of_reprints
  intro b hb
  have hnone := h b hb
  have hhead : ∀ p ∈ pieces source, hintMark ∉ p.head := by
    intro p hp hmem
    obtain ⟨x, y, hsource⟩ := exists_text_of_mem_pieces hp
    apply hmark
    rw [hsource, Piece.text]
    cases p.body <;> simp [hmem]
  rw [splitBlocks_eq_report] at hb
  have hline := line_of_mem_report (fun p hp => line_condense (hhead p hp)) hb
  obtain ⟨p, hp, hsilent, line, rfl⟩ := exists_piece_of_mem_report hb
  have hcause : p.cause = none := by rw [← (describes_block p options line).error, hnone]
  have hzero : line = 0 := by
    rw [Piece.block, show p.hint? = none from line_condense (hhead p hp)] at hline
    exact hline
  rw [hzero]
  apply (rereads_of_mem_pieces hp hcause).reprints options (hhead p hp) hcause hsilent
  intro body hbody
  obtain ⟨hwithin, ⟨-, -, hfree⟩ | ⟨-, hreport⟩⟩ := body_of_mem_pieces hp hbody
  · exact ⟨hwithin, hfree⟩
  · rw [hcause] at hreport
    cases hreport

/-- A declaration without its semicolon, a rule with a selector over two lines, and a semicolon at
the end of a line inside parentheses. -/
theorem splitBlocks_printBlocks_lines :
    let source : Text :=
      ['a', '\n', '\n', ' ', 'b', ',', '\n', ' ', 'c', '{', ' ', 'd', ';', '}', 'e', '(', ';', '\n', ')']
    hintMark ∉ source ∧ (∀ b ∈ splitBlocks source {}, b.error? = none) ∧
      printBlocks (splitBlocks source {}) =
        ['a', ';', 'b', ',', '\n', 'c', ' ', '{', 'd', ';', '}', 'e', '(', '\n', ')', ';'] ∧
      splitBlocks (printBlocks (splitBlocks source {})) {} = splitBlocks source {} := by
  intro source
  have hmark : hintMark ∉ source := by decide
  have hnone : ∀ b ∈ splitBlocks source {}, b.error? = none := by decide +kernel
  exact ⟨hmark, hnone, by decide +kernel, splitBlocks_printBlocks hmark hnone⟩

end SheetLex
