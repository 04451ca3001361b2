import SheetLex.Proofs.Block.Bounds
import SheetLex.Proofs.Block.Counting
import SheetLex.Proofs.Layout.Gap

/-!
# Blocks hold something

A declaration is handed out condensed, and only if it is not blank: its text is not empty, condensing
it changes nothing, and no hint mark is left in it (`Substantial`).

At the end of a source that leaves a construct open, a block has to be there for the report. It is
the rule that is open, or else what is pending, which is not blank, since the character that opened
the construct is in it (`exists_recovers`). So the empty block that stands by is never handed out,
and every report comes about in one of the two ways (`answers_hold_text`).
-/

set_option autoImplicit false

namespace SheetLex

/-! ## Condensed texts that are not empty -/

/-- A text that a declaration can be handed out with: it is not empty, condensing it changes
nothing, and it holds no hint mark. -/
structure Substantial (t : Text) : Prop where
  ne_nil : t ≠ []
  condensed : condense t = ⟨t, none⟩
  unmarked : hintMark ∉ t

theorem substantial_condense {t : Text} (h : isBlank t = false) :
    Substantial (condense t).text where
  ne_nil := by
    rw [Ne, condense_text_eq_nil_iff, h]
    exact Bool.false_ne_true
  condensed := condense_condense t
  unmarked := not_mem_condense t

/-- A piece that yields a block without a body is not blank. -/
theorem Piece.isBlank_head {p : Piece} (hsilent : p.isSilent = false) (hbody : p.body = none) :
    isBlank p.head = false := by
  rw [Piece.isSilent, hbody] at hsilent
  exact hsilent

theorem substantial_of_mem_splitBlocks {source : Text} {options : SplitOptions} {b : Block}
    (hb : b ∈ splitBlocks source options) (hbody : b.body = none) : Substantial b.selector := by
  rw [splitBlocks_eq_report] at hb
  obtain ⟨p, -, hsilent, line, rfl⟩ := exists_piece_of_mem_report hb
  exact substantial_condense (p.isBlank_head hsilent (Option.map_eq_none_iff.1 hbody))

namespace Splitter

/-- Whatever pass a call is in, it gives a block of the source or the end block. -/
theorem answer_mem_or_isEnd (source : Text) (options : SplitOptions) (n : Nat) :
    (ofSource source options).answer n ∈ splitBlocks source options ∨
      ((ofSource source options).answer n).isEnd = true := by
  obtain ⟨line, hpass⟩ := pass_splitBlocks source options
  -- the calls of a pass are those of the first one
  have hmod : n % ((splitBlocks source options).length + 1) <
      (splitBlocks source options).length + 1 := Nat.mod_lt _ (Nat.succ_pos _)
  rw [← Nat.div_add_mod' n ((splitBlocks source options).length + 1), ofSource,
    answer_of_behind_eq hpass.behind_length]
  generalize n % ((splitBlocks source options).length + 1) = i at hmod ⊢
  rcases Nat.lt_succ_iff_lt_or_eq.1 hmod with hi | rfl
  · rw [(hpass.answer_of_getElem? (List.getElem?_eq_getElem hi)).1]
    exact .inl (List.getElem_mem hi)
  · rw [hpass.answer_length]
    exact .inr rfl

/-! ## Blocks that characters complete -/

section Completion

variable {source : Text} {options : SplitOptions} {s s' : SplitterState} {b : Block}

theorem status_declare {first last : Nat} (h : (declare source s first last).1 = some b) :
    b.status = .complete := by
  rw [declare] at h
  split at h
  · cases h
  · obtain rfl := Option.some.inj h
    rfl

theorem status_emitPending (h : (emitPending source s).1 = some b) : b.status = .complete := by
  rw [emitPending] at h
  split at h
  · cases h
  · exact status_declare h

theorem status_perform {action : Action} {pos : Nat}
    (h : (perform source options action s pos).1 = some b) : b.status = .complete := by
  cases action with
  | openOuter =>
    rw [perform, openRule] at h
    simp only at h
    split at h
    · cases h
    · exact status_emitPending h
  | closeOuter =>
    rw [perform, closeRule] at h
    simp only at h
    split at h
    · cases h
    · obtain rfl := Option.some.inj h
      rfl
  | endDeclaration => exact status_declare h
  | emitPending => exact status_emitPending h
  | _ => cases h

theorem status_react {m : Mark} {pos : Nat} (h : (react source options m s pos).1 = some b) :
    b.status = .complete := by
  rw [react] at h
  split at h
  · exact status_perform h
  · cases h

theorem status_readChar {c : Char} (h : (readChar source options c s).1 = some b) :
    b.status = .complete := by
  rw [readChar] at h
  split at h
  · cases h
  · exact status_react h

/-- A block that a character completes reports nothing. -/
theorem status_readOn {t : Text} (h : readOn source options t s = (some b, s')) :
    b.status = .complete := by
  induction t generalizing s with
  | nil => cases h
  | cons c t ih =>
    rw [readOn] at h
    split at h
    · rename_i block s'' hread
      obtain ⟨hblock, -⟩ := Prod.mk.inj h
      exact status_readChar ((congrArg Prod.fst hread).trans hblock)
    · exact ih h

end Completion

/-! ## Reports at the end of the source -/

/-- Where the block that reports an open construct comes from, given the state at the end of the
source: the rule that is open is closed, or, if there is none, all pending text is handed out as a
declaration. -/
inductive Recovers (source : Text) (options : SplitOptions) (s : SplitterState) (b : Block) :
    Prop where
  | rule : 0 < s.depth → s.interpolation = false →
      (closeRule source options { s with depth := 1 } source.length).1 = some b →
      Recovers source options s b
  | pending : s.depth = 0 ∨ s.interpolation = true →
      (emitPending source { s with selector := source.length }).1 = some b →
      Recovers source options s b

section Recovery

variable {source rest x : Text} {options : SplitOptions} {s s' : SplitterState} {k : Cutter}
variable {b : Block} {cause : OpenConstruct}

theorem recover_eq_closeRule (hdepth : 0 < s.depth) (hrule : s.interpolation = false) :
    (recover source options s).1 =
      (closeRule source options { s with depth := 1 } source.length).1 := by
  have hclose : closeAll source options s =
      closeRule source options { s with parens := 0, quote := none, depth := 1 } source.length :=
    if_pos hdepth
  rw [recover_eq_closeAll, hclose, closeRule, closeRule]
  simp only [hrule]
  rfl

/-- What is handed out as pending depends on the marks around it and the line number only. -/
theorem emitPending_congr (hpending : s.pending = s'.pending) (hselector : s.selector = s'.selector)
    (hline : s.line = s'.line) : (emitPending source s).1 = (emitPending source s').1 := by
  rw [emitPending, emitPending, hpending, hselector]
  split
  · rfl
  · rw [declare, declare]
    split
    · rfl
    · simp only [SplitterState.noteLine, hline]

theorem react_sourceEnd_of_free (h : s.balance = .free) :
    react source options .sourceEnd s source.length = emitPending source s := by
  have haction : s.balance.mode.action? .sourceEnd = some .emitPending := by
    rw [h]
    rfl
  rw [react_of_some source options haction, perform]

theorem recover_eq_emitPending (h : s.depth = 0 ∨ s.interpolation = true) :
    (recover source options s).1 =
      (emitPending source { s with selector := source.length }).1 := by
  -- closing what is open hands out nothing and leaves nothing open
  obtain ⟨s', hclose, hbalance, hpending, hline⟩ : ∃ s', closeAll source options s = (none, s') ∧
      s'.balance = .free ∧ s'.pending = s.pending ∧ s'.line = s.line := by
    rw [closeAll]
    split
    · rename_i hdepth
      have hinterpolation := h.resolve_left (Nat.ne_of_gt hdepth)
      have hclose : react source options .rightBrace
          { s with parens := 0, quote := none, depth := 1 } source.length =
          closeRule source options { s with parens := 0, quote := none, depth := 1 }
            source.length := rfl
      rw [hclose, closeRule]
      simp only [hinterpolation, if_true]
      exact ⟨_, rfl, rfl, rfl, rfl⟩
    · rename_i hdepth
      have hzero := Nat.eq_zero_of_not_pos hdepth
      refine ⟨_, rfl, ?_, rfl, rfl⟩
      change (⟨none, 0, s.depth⟩ : Balance) = .free
      rw [hzero]
      rfl
  have hfree : ({ s' with selector := source.length } : SplitterState).balance = .free := hbalance
  rw [recover_eq_closeAll, hclose]
  simp only
  rw [react_sourceEnd_of_free hfree]
  exact emitPending_congr hpending rfl hline

/-- At the end of a source that leaves something open, a block is there to report it. -/
theorem exists_recovers (options : SplitOptions) (h : Represents source [] s k)
    (hopen : k.balance ≠ .free) :
    ∃ b, (recover source options s).1 = some b ∧ Recovers source options s b := by
  obtain ⟨s', hrecover, -⟩ := recover_eq options h hopen
  refine ⟨_, congrArg Prod.fst hrecover, ?_⟩
  by_cases hrule : 0 < s.depth ∧ s.interpolation = false
  · refine .rule hrule.1 hrule.2 ?_
    rw [← recover_eq_closeRule hrule.1 hrule.2, hrecover]
  · rw [not_and_or, Nat.not_lt, Nat.le_zero, Bool.not_eq_false] at hrule
    refine .pending hrule ?_
    rw [← recover_eq_emitPending hrule, hrecover]

theorem conclude_of_recover (hcause : s.openConstruct? = some cause)
    (hb : (recover source options s).1 = some b) :
    (conclude source options s).1 = { b with status := .recovered cause } := by
  rw [conclude, hcause]
  simp only
  rw [hb, Option.getD_some]

/-- Only what is open is reported. -/
theorem openConstruct?_of_conclude (h : (conclude source options s).1.error? = some cause) :
    s.openConstruct? = some cause := by
  cases hopen : s.openConstruct? with
  | some cause' =>
    rw [conclude, hopen] at h
    exact h
  | none =>
    rw [conclude_of_none hopen, flush] at h
    split at h
    · rename_i b s' hblock
      -- what is handed out with nothing open reports nothing
      split at hblock
      · have hstatus := status_react (congrArg Prod.fst hblock)
        rw [Block.error?, hstatus] at h
        cases h
      · cases hblock
    · cases h

/-- If no block ends in what remains of a source, reading on leads to the state behind all of
it. -/
theorem readOn_stateBehind (h : source = x ++ rest)
    (hread : readOn source options rest (stateBehind source options x) = (none, s)) :
    s = stateBehind source options source := by
  induction rest generalizing x with
  | nil =>
    rw [List.append_nil] at h
    rw [← h] at hread
    exact (congrArg Prod.snd hread).symm
  | cons c rest ih =>
    rw [readOn] at hread
    split at hread
    · cases hread
    · rename_i s' hchar
      have hbehind : stateBehind source options (x ++ [c]) = s' := by
        rw [stateBehind_concat, hchar]
      rw [← hbehind] at hread
      exact ih (by rw [h, List.append_assoc]; rfl) hread

/-- Between two calls, whatever has been handed out: if no block ends in the rest of the source and
something is open at its end, a block is there to report it. -/
theorem Between.exists_recovers {report : Option OpenConstruct}
    (h : Between source options report s)
    (hread : readOn source options (source.drop s.cursor) s = (none, s'))
    (hcause : s'.openConstruct? = some cause) :
    ∃ b, (recover source options s').1 = some b ∧ Recovers source options s' b := by
  cases h with
  | reading x rest h =>
    have hdrop : source.drop (stateBehind source options x).cursor = rest := by
      rw [cursor_stateBehind, h, List.drop_left]
    rw [hdrop] at hread
    obtain rfl := readOn_stateBehind h hread
    apply Splitter.exists_recovers options
      (represents_stateBehind options (List.append_nil source).symm)
    rw [Cutter.balance_after_start, ← balance_stateBehind source options]
    intro hfree
    rw [SplitterState.openConstruct?_eq, hfree] at hcause
    cases hcause
  | handedOut _ hend hreport =>
    -- nothing is open any more
    rw [hend.cursor, List.drop_length] at hread
    obtain rfl : s = s' := congrArg Prod.snd hread
    rw [SplitterState.openConstruct?_eq, hend.balance] at hcause
    cases hcause

end Recovery

/-- What the calls of `next` give, in whatever pass, holds something. A block without a body, the end
block apart, has a text that is not empty, condensed, and without hint marks. If the source ends with
a construct open, the block that reports it is the rule that is open or what is pending, never the
empty block that stands by; and no block reports anything otherwise. -/
theorem answers_hold_text (source : Text) (options : SplitOptions) (n : Nat) :
    let l := (ofSource source options).behind n
    let b := (ofSource source options).answer n
    (b.isEnd = false → b.body = none → Substantial b.selector) ∧
      (∀ s cause, readOn source options (source.drop l.state.cursor) l.state = (none, s) →
        s.openConstruct? = some cause →
          ∃ found, (recover source options s).1 = some found ∧
            Recovers source options s found ∧ b = { found with status := .recovered cause }) ∧
      ∀ cause, b.error? = some cause →
        ∃ s, readOn source options (source.drop l.state.cursor) l.state = (none, s) ∧
          s.openConstruct? = some cause := by
  intro l b
  obtain ⟨s, hbehind, hbetween⟩ := between_behind source options n
  have hl : l = ⟨source, options, s⟩ := hbehind
  have hb : b = (next ⟨source, options, s⟩).1 := congrArg (fun l => l.next.1) hbehind
  rw [hl]
  refine ⟨fun hend hbody => ?_, fun s' cause hread hcause => ?_, fun cause herror => ?_⟩
  · rcases answer_mem_or_isEnd source options n with hmem | htrue
    · exact substantial_of_mem_splitBlocks hmem hbody
    · rw [hend] at htrue
      cases htrue
  · obtain ⟨found, hfound, hrecovers⟩ := hbetween.exists_recovers hread hcause
    refine ⟨found, hfound, hrecovers, ?_⟩
    rw [hb, next]
    simp only [hread]
    exact conclude_of_recover hcause hfound
  · rw [hb, next] at herror
    simp only at herror ⊢
    split at herror
    · rename_i found s' hread
      rw [Block.error?, status_readOn hread] at herror
      cases herror
    · rename_i s' hread
      exact ⟨s', hread, openConstruct?_of_conclude herror⟩

/-- A string in a parenthesis in an interpolation behind a declaration, all left open. The report is
on the interpolation, which is pending. -/
theorem answers_hold_text_interpolation :
    let source : Text := ['a', ';', ' ', '#', '{', 'b', '(', '"']
    let l := (ofSource source {}).behind 1
    let b := (ofSource source {}).answer 1
    b.isEnd = false ∧ b.body = none ∧ b.error? = some .parenthesis ∧ Substantial b.selector ∧
      ∃ s found, readOn source {} (source.drop l.state.cursor) l.state = (none, s) ∧
        s.openConstruct? = some .parenthesis ∧ (recover source {} s).1 = some found ∧
        Recovers source {} s found ∧ b = { found with status := .recovered .parenthesis } := by
  intro source l b
  obtain ⟨htext, hreport, hopen⟩ := answers_hold_text source {} 1
  have hend : b.isEnd = false := by decide +kernel
  have hbody : b.body = none := by decide +kernel
  have herror : b.error? = some .parenthesis := by decide +kernel
  obtain ⟨s, hread, hcause⟩ := hopen .parenthesis herror
  obtain ⟨found, hfound, hrecovers, hb⟩ := hreport s .parenthesis hread hcause
  exact ⟨hend, hbody, herror, htext hend hbody, s, found, hread, hcause, hfound, hrecovers, hb⟩

end Splitter

end SheetLex
