import SheetLex.Proofs.Block.Refinement

/-!
# Passes over a source

`Splitter.Pass` describes a pass from some state on: the blocks that repeated calls of
`Splitter.next` give, and the end block behind them, with which the splitter is back at its start.
A pass over a source gives the blocks that the pieces of the source yield (`pass_pieces`), and so
does `splitBlocks`, which asks for enough blocks to reach the end (`splitBlocks_eq_report`).

The end of a source hands out the last piece. If a construct is open there, that piece is a rule
or is not blank, so a block is there to report it (`recover_eq`).
-/

set_option autoImplicit false

namespace SheetLex

namespace Splitter

/-! ## The end of the source -/

section End

variable {source : Text} {s : SplitterState} {k : Cutter}

/-- Everything has been handed out. -/
structure AtEnd (source : Text) (s : SplitterState) : Prop where
  cursor : s.cursor = source.length
  balance : s.balance = .free
  selector : s.selector = source.length

theorem conclude_of_atEnd (options : SplitOptions) (h : AtEnd source s) :
    conclude source options s = (Block.finish s.line, {}) := by
  have hopen : s.openConstruct? = none := by
    rw [SplitterState.openConstruct?_eq, h.balance]
    rfl
  have hselector : ¬ s.selector < source.length := by
    rw [h.selector]
    exact Nat.lt_irrefl _
  rw [conclude, hopen]
  simp only [if_neg hselector]

/-- With nothing open, the end of the source hands out the pending text. -/
theorem react_sourceEnd (options : SplitOptions) (s : SplitterState) {before t : Text}
    (hsource : source = before ++ t) (hpending : s.pending = before.length)
    (hbalance : s.balance = .free) :
    react source options .sourceEnd { s with selector := source.length } source.length =
      ((({ head := t } : Piece).yield options s.line).1,
        { s with
          pending := source.length
          selector := source.length
          line := (({ head := t } : Piece).yield options s.line).2 }) := by
  have haction : ({ s with selector := source.length } : SplitterState).balance.mode.action?
      .sourceEnd = some .emitPending := by
    change s.balance.mode.action? .sourceEnd = some .emitPending
    rw [hbalance]
    rfl
  have hslice : Text.slice source s.pending source.length = t := by
    refine Text.slice_eq (c := []) ?_ hpending ?_
    · rw [hsource, List.append_nil]
    · rw [hsource, List.length_append]
  have horder : ¬ source.length < s.pending := by
    rw [hpending, hsource, List.length_append]
    omega
  rw [react_of_some source options haction]
  simp only [perform]
  rw [emitPending, if_neg horder, declare_eq options false _ hslice]

theorem Represents.cursor_eq (h : Represents source [] s k) : s.cursor = source.length := h.cursor

theorem Represents.depth_eq {rest : Text} (h : Represents source rest s k) :
    s.depth = k.balance.depth := congrArg Balance.depth h.balance

/-- Recovering hands out the last piece, whatever is open. -/
theorem recover_eq (options : SplitOptions) (h : Represents source [] s k)
    (hopen : k.balance ≠ .free) :
    ∃ s', recover source options s =
        (some (({ k.lastPiece with cause := none } : Piece).block options s.line), s') ∧
      s'.line = k.lastPiece.hint?.getD s.line ∧ AtEnd source s' := by
  obtain ⟨before, hsource, -, hplace⟩ := h.place
  rw [List.append_nil] at hsource
  rw [recover, Cutter.lastPiece]
  cases hk : k.place with
  | outside p =>
    rw [hk] at hplace hsource
    change source = before ++ p.text at hsource
    obtain ⟨hmarks, hinterpolation⟩ := hplace
    have hsilent : ({ head := p.text } : Piece).isSilent = false :=
      (h.sound.pending hk).2 hopen
    by_cases hdepth : 0 < s.depth
    · rw [if_pos hdepth]
      -- the open brace belongs to an interpolation, so closing it hands out nothing
      have hclose : react source options .rightBrace
          { s with parens := 0, quote := none, depth := 1 } source.length =
          (none, { s with parens := 0, quote := none, depth := 0, interpolation := false }) := by
        rw [react]
        change perform source options .closeOuter _ source.length = _
        rw [perform, closeRule]
        simp only
        rw [if_pos (by rw [hinterpolation, decide_eq_true hdepth])]
      simp only [hclose]
      rw [react_sourceEnd options
          { s with parens := 0, quote := none, depth := 0, interpolation := false } hsource
          hmarks.pending rfl,
        Piece.yield_of_not_isSilent hsilent]
      exact ⟨_, rfl, rfl, h.cursor_eq, rfl, rfl⟩
    · rw [if_neg hdepth]
      have hzero : s.depth = 0 := Nat.eq_zero_of_not_pos hdepth
      have hbalance : ({ s with parens := 0, quote := none } : SplitterState).balance = .free := by
        change (⟨none, 0, s.depth⟩ : Balance) = .free
        rw [hzero]
        rfl
      simp only
      rw [react_sourceEnd options { s with parens := 0, quote := none } hsource hmarks.pending
          hbalance,
        Piece.yield_of_not_isSilent hsilent]
      exact ⟨_, rfl, rfl, h.cursor_eq, hbalance, rfl⟩
  | inside selector body =>
    rw [hk] at hplace hsource
    obtain ⟨hselector, hbrace, hinterpolation⟩ := hplace
    have hdepth : 0 < s.depth := h.depth_eq ▸ h.sound.depth_pos hk
    -- closing the rule at the end of the source takes the rest of the source as its body
    have hhead : Text.slice source s.selector s.brace = selector :=
      Text.slice_eq (c := '{' :: body) (by rw [hsource, Place.text, List.append_assoc]) hselector
        hbrace
    have hbody : Text.slice source (s.brace + 1) source.length = body := by
      refine Text.slice_eq (a := before ++ selector ++ ['{']) (c := []) ?_ ?_ ?_
      · rw [hsource]
        simp [Place.text]
      · rw [hbrace]
        simp [Nat.add_assoc]
      · rw [hsource]
        simp only [Place.text, List.length_append, List.length_cons, List.length_nil]
        omega
    have hclose : react source options .rightBrace
        { s with parens := 0, quote := none, depth := 1 } source.length =
        closeRule source options { s with parens := 0, quote := none, depth := 1 }
          source.length := rfl
    have hrule := closeRule_eq options false
      { s with parens := 0, quote := none, depth := 1 } hinterpolation hhead hbody
    rw [if_pos hdepth, hclose, hrule]
    exact ⟨_, rfl, rfl, h.cursor_eq, rfl, Nat.min_eq_right (Nat.le_succ _)⟩

/-- The end of the source gives the block of the last piece, or the end block if it has none. -/
theorem conclude_eq (options : SplitOptions) (h : Represents source [] s k) :
    (k.lastPiece.isSilent = true ∧ conclude source options s = (Block.finish s.line, {})) ∨
      k.lastPiece.isSilent = false ∧
        ∃ s', conclude source options s = (k.lastPiece.block options s.line, s') ∧
          s'.line = k.lastPiece.hint?.getD s.line ∧ AtEnd source s' := by
  by_cases hopen : k.balance = .free
  · have hcause : k.balance.openConstruct? = none :=
      (Balance.openConstruct?_eq_none_iff _).2 hopen
    have hcause' : s.openConstruct? = none := by
      rw [SplitterState.openConstruct?_eq, h.balance, hcause]
    cases hk : k.place with
    | inside selector body =>
      have hdepth := h.sound.depth_pos hk
      rw [hopen] at hdepth
      exact absurd hdepth (Nat.lt_irrefl 0)
    | outside p =>
      obtain ⟨before, hsource, -, hplace⟩ := h.place
      rw [hk] at hplace hsource
      rw [List.append_nil] at hsource
      change source = before ++ p.text at hsource
      have hlast : k.lastPiece = { head := p.text } := by
        rw [Cutter.lastPiece, hk, hcause]
      rw [hlast, conclude, hcause']
      by_cases hselector : s.selector < source.length
      · simp only [if_pos hselector]
        rw [react_sourceEnd options s hsource hplace.1.pending (h.balance.trans hopen)]
        cases hsilent : ({ head := p.text } : Piece).isSilent with
        | true =>
          rw [Piece.yield_of_isSilent hsilent]
          exact .inl ⟨rfl, rfl⟩
        | false =>
          rw [Piece.yield_of_not_isSilent hsilent]
          exact .inr ⟨rfl, _, rfl, rfl, h.cursor_eq, h.balance.trans hopen, rfl⟩
      · -- nothing follows the start of the selector, so nothing leads up to it either
        have hnil : p.selector = [] := by
          have hlength := congrArg List.length hsource
          rw [← p.lead_append_selector] at hlength
          simp only [List.length_append] at hlength
          rw [hplace.1.selector] at hselector
          exact List.eq_nil_of_length_eq_zero (by omega)
        have hlead : p.lead = [] := by
          by_contra hne
          exact ((h.sound.pending hk).1.selector_ne hne) hnil
        have htext : p.text = [] := by
          rw [← p.lead_append_selector, hnil, hlead]
          rfl
        rw [if_neg hselector, htext]
        exact .inl ⟨rfl, rfl⟩
  · -- something is open: the last piece is recovered, and it is never silent
    have hcause : ∃ cause, k.balance.openConstruct? = some cause :=
      Option.ne_none_iff_exists'.1 fun hnone =>
        hopen ((Balance.openConstruct?_eq_none_iff _).1 hnone)
    obtain ⟨cause, hcause⟩ := hcause
    obtain ⟨s', hrecover, hline, hend⟩ := recover_eq options h hopen
    have hlast : k.lastPiece.cause = some cause := by
      rw [Cutter.lastPiece]
      split <;> exact hcause
    refine .inr ⟨?_, s', ?_, hline, hend⟩
    · rw [Cutter.lastPiece]
      split
      · rename_i p hp
        exact (h.sound.pending hp).2 hopen
      · rfl
    · rw [conclude, SplitterState.openConstruct?_eq, h.balance, hcause]
      simp only [hrecover, Option.getD_some]
      rw [Piece.block, Piece.block, hlast]
      rfl

end End

/-! ## Passes -/

/-- From the state on, repeated calls of `next` give the blocks listed and then the end block with
the line number given, and the splitter is back at its start. -/
inductive Pass (source : Text) (options : SplitOptions) :
    SplitterState → List Block → Nat → Prop where
  | finish {s : SplitterState} {line : Nat} :
      next ⟨source, options, s⟩ = (Block.finish line, ⟨source, options, {}⟩) →
      Pass source options s [] line
  | block {s s' : SplitterState} {b : Block} {bs : List Block} {line : Nat} :
      next ⟨source, options, s⟩ = (b, ⟨source, options, s'⟩) → b.isEnd = false →
      Pass source options s' bs line → Pass source options s (b :: bs) line

section Passes

variable {source rest : Text} {options : SplitOptions} {s s' : SplitterState} {k : Cutter}
variable {bs : List Block} {line : Nat}

/-- A pass depends on the next block only. -/
theorem Pass.of_next_eq (h : Pass source options s' bs line)
    (hnext : next ⟨source, options, s⟩ = next ⟨source, options, s'⟩) :
    Pass source options s bs line := by
  cases h with
  | finish hfinish => exact .finish (hnext.trans hfinish)
  | block hblock hend hrest => exact .block (hnext.trans hblock) hend hrest

theorem Represents.drop_cursor (h : Represents source rest s k) :
    source.drop s.cursor = rest := by
  obtain ⟨before, hsource, -, -⟩ := h.place
  have hcursor := h.cursor
  rw [hsource] at hcursor ⊢
  rw [List.length_append] at hcursor
  rw [show s.cursor = (before ++ k.place.text).length by omega, List.drop_left]

theorem next_of_atEnd (h : AtEnd source s) :
    next ⟨source, options, s⟩ = (Block.finish s.line, ⟨source, options, {}⟩) := by
  rw [next]
  simp only
  rw [h.cursor, List.drop_length, readOn]
  simp only [conclude_of_atEnd options h]

theorem next_of_readChar_none {c : Char} (hdrop : source.drop s.cursor = c :: rest)
    (hread : readChar source options c s = (none, s')) (hrest : source.drop s'.cursor = rest) :
    next ⟨source, options, s⟩ = next ⟨source, options, s'⟩ := by
  rw [next, next]
  simp only
  rw [hdrop, hrest, readOn, hread]

theorem next_of_readChar_some {c : Char} {b : Block} (hdrop : source.drop s.cursor = c :: rest)
    (hread : readChar source options c s = (some b, s')) :
    next ⟨source, options, s⟩ = (b, ⟨source, options, s'⟩) := by
  rw [next]
  simp only
  rw [hdrop, readOn, hread]

theorem isEnd_of_yield {p : Piece} {b : Block} (h : (p.yield options line).1 = some b) :
    b.isEnd = false := by
  rw [Piece.yield] at h
  split at h
  · cases h
  · obtain rfl := Option.some.inj h
    exact Piece.isEnd_block p options line

/-- The blocks of a pass are those that the remaining pieces yield. -/
theorem pass_of_represents (h : Represents source rest s k) :
    Pass source options s (report options s.line (k.allPieces rest))
      (lineBehind s.line (k.allPieces rest)) := by
  induction rest generalizing s k with
  | nil =>
    have hread : next ⟨source, options, s⟩ =
        ((conclude source options s).1, ⟨source, options, (conclude source options s).2⟩) := by
      rw [next]
      simp only
      rw [h.drop_cursor, readOn]
    change Pass source options s (report options s.line [k.lastPiece])
      (lineBehind s.line [k.lastPiece])
    rw [report_cons, lineBehind_cons options]
    rcases conclude_eq options h with ⟨hsilent, hend⟩ | ⟨hsilent, s', hblock, hline, hend⟩
    · rw [Piece.yield_of_isSilent hsilent]
      rw [hend] at hread
      exact .finish hread
    · rw [Piece.yield_of_not_isSilent hsilent]
      rw [hblock] at hread
      refine .block hread (Piece.isEnd_block _ _ _) (.finish ?_)
      rw [next_of_atEnd hend, hline]
      rfl
  | cons c rest ih =>
    obtain ⟨hanswer, hrest⟩ := represents_readChar options h
    have hdrop := h.drop_cursor
    have hpass := ih hrest
    rw [Cutter.allPieces_cons]
    cases hread : readChar source options c s with
    | mk block s' =>
      rw [hread] at hanswer hrest hpass
      obtain ⟨hblock, hline⟩ := Prod.mk.inj hanswer
      rw [hline] at hpass
      cases hpiece : (k.read c).1 with
      | none =>
        -- no piece ends here, so the next block is the one that is next behind the character
        rw [hpiece] at hblock hpass
        subst hblock
        exact hpass.of_next_eq (next_of_readChar_none hdrop hread hrest.drop_cursor)
      | some p =>
        rw [hpiece] at hblock hpass
        change block = (p.yield options s.line).1 at hblock
        rw [Option.toList_some, List.singleton_append, report_cons, lineBehind_cons options,
          ← hblock]
        -- a silent piece passes unnoticed; any other one is the next block
        cases block with
        | none => exact hpass.of_next_eq (next_of_readChar_none hdrop hread hrest.drop_cursor)
        | some b =>
          exact .block (next_of_readChar_some hdrop hread) (isEnd_of_yield hblock.symm) hpass

/-- A pass over a source gives the blocks of its pieces. -/
theorem pass_pieces (source : Text) (options : SplitOptions) :
    Pass source options {} (report options 0 (pieces source)) (lineBehind 0 (pieces source)) :=
  pass_of_represents (represents_start source)

/-! ## Collecting a pass -/

theorem collect_of_pass (h : Pass source options s bs line) :
    ∀ bound, bs.length < bound →
      collect bound ⟨source, options, s⟩ = (bs, ⟨source, options, {}⟩) := by
  induction h with
  | finish hnext =>
    intro bound hbound
    obtain ⟨bound, rfl⟩ := Nat.exists_eq_succ_of_ne_zero (Nat.ne_of_gt hbound)
    rw [collect, hnext]
    rfl
  | block hnext hend hrest ih =>
    intro bound hbound
    obtain ⟨bound, rfl⟩ :=
      Nat.exists_eq_succ_of_ne_zero (Nat.ne_of_gt (Nat.lt_of_le_of_lt (Nat.zero_le _) hbound))
    rw [collect, hnext]
    simp only [hend, ih bound (Nat.lt_of_succ_lt_succ hbound)]
    rfl

end Passes

end Splitter

open Splitter

/-- The characters that can end a piece. -/
def isCut (c : Char) : Bool := c == ';' || c == '{' || c == '}'

theorem Cutter.Step.isCut {k : Cutter} {c : Char} {p : Piece} {place : Place}
    (h : k.Step c (some p) place) : isCut c = true := by
  cases h with
  | declare p hp hfree hc => rw [hc]; rfl
  | openRule p hp hfree hc hhash => rw [hc]; rfl
  | closeRule selector body hp hbalance hc => rw [hc]; rfl

/-- A character ends one piece at most, and none unless it can. -/
theorem Cutter.length_pieces_le (k : Cutter) (t : Text) :
    (k.pieces t).length ≤ t.countP SheetLex.isCut := by
  induction t generalizing k with
  | nil => exact Nat.le_refl 0
  | cons c t ih =>
    have hrest := ih (k.read c).2
    have hstep := k.step_read c
    rw [pieces_cons, List.length_append, List.countP_cons]
    cases hpiece : (k.read c).1 with
    | none =>
      rw [Option.toList_none, List.length_nil, Nat.zero_add]
      exact Nat.le_trans hrest (Nat.le_add_right _ _)
    | some p =>
      rw [hpiece] at hstep
      rw [Option.toList_some, List.length_singleton, Nat.add_comm, if_pos hstep.isCut]
      exact Nat.succ_le_succ hrest

/-- There is one piece for every character that can end one at most, and one more at the end. -/
theorem length_pieces_le_countP (source : Text) :
    (pieces source).length ≤ source.countP isCut + 1 := by
  rw [pieces, Cutter.allPieces, List.length_append]
  exact Nat.succ_le_succ (({} : Cutter).length_pieces_le source)

theorem length_pieces_le (source : Text) : (pieces source).length ≤ source.length + 1 :=
  Nat.le_trans (length_pieces_le_countP source) (Nat.succ_le_succ List.countP_le_length)

/-- The blocks of a source are those that its pieces yield. -/
theorem splitBlocks_eq_report (source : Text) (options : SplitOptions) :
    splitBlocks source options = report options 0 (pieces source) := by
  have hlength := length_report_le options 0 (pieces source)
  have hpieces := length_pieces_le source
  have hbound : (report options 0 (pieces source)).length < source.length - 0 + 3 := by omega
  rw [splitBlocks, ofSource, blocks]
  exact congrArg Prod.fst (collect_of_pass (pass_pieces source options) _ hbound)

end SheetLex
