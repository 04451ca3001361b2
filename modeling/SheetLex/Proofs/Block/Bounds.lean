import SheetLex.Proofs.Block.Calls

/-!
# The marks of a splitter lie in order

The marks of a splitter cut what it has read of its source: the pending text begins no later than
the selector, the selector no later than the cursor, and the tentative start of a selector, where
there is one, lies between the last boundary and the cursor. While an outermost rule is open, the
selector ends at the brace that opened it, which has been read. `InOrder` says so of a state, with
a bound for what has been read.

Every character that is read keeps the marks in order, with the bound moved behind it
(`inOrder_readChar`); so does the end of the source, where nothing is left to move
(`inOrder_conclude`). What an action needs for this, and for the counts that it lowers, is what
brings it about: `Action.Arises` lists it.
-/

set_option autoImplicit false

namespace SheetLex

/-! ## What brings an action about -/

/-- The mode and the class of character that an action comes from. -/
def Action.Arises (m : LexicalMode) (k : Mark) : Action → Prop
  | .beginString _ | .endString => True
  | .beginParens => k = .leftParen
  | .endParens => m.inParens = true
  | .openOuter => m.nesting = .outside ∧ k = .leftBrace
  | .openInner => m.nesting ≠ .outside
  | .closeOuter => m.nesting = .outer ∧ k = .rightBrace
  | .closeInner => m.nesting = .inner
  | .endDeclaration => m.nesting = .outside ∧ k = .semicolon
  | .extendSelector => m.nesting = .outside ∧ k = .comma
  | .breakLine => m.nesting = .outside ∧ k = .lineFeed
  | .emitPending => k = .sourceEnd

theorem LexicalMode.arises_of_action? {m : LexicalMode} {k : Mark} {action : Action}
    (h : m.action? k = some action) : action.Arises m k := by
  obtain ⟨quote, inParens, nesting⟩ := m
  cases quote with
  | some opened =>
    cases k with
    | quote q =>
      simp only [LexicalMode.action?] at h
      split at h <;> cases h
      trivial
    | _ => cases h
  | none =>
    cases k with
    | quote q => cases h; trivial
    | leftParen => cases h; rfl
    | _ =>
      cases inParens <;> cases nesting <;> cases h <;> simp [Action.Arises]

/-- At the end of the source, what is pending is handed out or nothing happens. -/
theorem LexicalMode.action?_sourceEnd (m : LexicalMode) :
    m.action? .sourceEnd = some .emitPending ∨ m.action? .sourceEnd = none := by
  obtain ⟨quote, inParens, nesting⟩ := m
  cases quote <;> cases inParens <;> cases nesting <;> simp [LexicalMode.action?, Nesting.action?]

theorem Nesting.ofDepth_eq_outside_iff {n : Nat} : Nesting.ofDepth n = .outside ↔ n = 0 := by
  rcases n with _ | _ | n <;> simp [Nesting.ofDepth]

theorem Nesting.ofDepth_eq_outer_iff {n : Nat} : Nesting.ofDepth n = .outer ↔ n = 1 := by
  rcases n with _ | _ | n <;> simp [Nesting.ofDepth]

theorem Nesting.ofDepth_eq_inner_iff {n : Nat} : Nesting.ofDepth n = .inner ↔ 1 < n := by
  rcases n with _ | _ | n <;> simp [Nesting.ofDepth]

theorem Mark.of_eq_leftBrace {c : Char} (h : Mark.of c = .leftBrace) : c = '{' := by
  unfold Mark.of at h
  split_ifs at h
  assumption

namespace Splitter

/-! ## Marks in order -/

/-- The marks of a state lie in order within the first `bound` characters of the source. -/
structure InOrder (source : Text) (bound : Nat) (s : SplitterState) : Prop where
  bound_le : bound ≤ source.length
  pending_le : s.pending ≤ s.selector
  selector_le : s.selector ≤ bound
  boundary_le : s.boundary ≤ bound
  tentative_mem : ∀ t, s.tentative = some t → s.boundary ≤ t ∧ t ≤ bound
  /-- At the end of the source what is pending may have been handed out past a tentative start,
  which is not looked at any more. -/
  pending_le_tentative : bound < source.length → ∀ t, s.tentative = some t → s.pending ≤ t
  depth_pos : s.interpolation = true → 0 < s.depth
  brace_mem : 0 < s.depth → s.interpolation = false →
    s.selector ≤ s.brace ∧ s.brace < bound ∧ source[s.brace]? = some '{'

section Order

variable {source : Text} {options : SplitOptions} {s : SplitterState} {pos : Nat} {c : Char}

theorem inOrder_start (source : Text) : InOrder source 0 {} where
  bound_le := Nat.zero_le _
  pending_le := Nat.le_refl 0
  selector_le := Nat.le_refl 0
  boundary_le := Nat.le_refl 0
  tentative_mem := fun _ ht => Option.some.inj ht ▸ ⟨Nat.le_refl 0, Nat.le_refl 0⟩
  pending_le_tentative := fun _ _ _ => Nat.zero_le _
  depth_pos := fun h => by cases h
  brace_mem := fun h => absurd h (Nat.lt_irrefl 0)

/-- Marks that are not moved stay in order when more is read. -/
theorem InOrder.succ (h : InOrder source pos s) (hpos : pos < source.length) :
    InOrder source (pos + 1) s where
  bound_le := hpos
  pending_le := h.pending_le
  selector_le := Nat.le_succ_of_le h.selector_le
  boundary_le := Nat.le_succ_of_le h.boundary_le
  tentative_mem := fun t ht => (h.tentative_mem t ht).imp_right Nat.le_succ_of_le
  pending_le_tentative := fun _ t ht => h.pending_le_tentative hpos t ht
  depth_pos := h.depth_pos
  brace_mem := fun hdepth hrule =>
    (h.brace_mem hdepth hrule).imp_right (And.imp_left Nat.lt_succ_of_lt)

/-- Outside braces no interpolation is open. -/
theorem InOrder.interpolation_eq (h : InOrder source pos s) (hdepth : s.depth = 0) :
    s.interpolation = false :=
  Bool.eq_false_iff.2 fun hskip => absurd hdepth (Nat.ne_of_gt (h.depth_pos hskip))

/-! ### The marks that the effects move -/

theorem declare_eq_line (source : Text) (s : SplitterState) (first last : Nat) :
    ∃ line, (declare source s first last).2 = { s with line } := by
  rw [declare]
  split
  · exact ⟨s.line, rfl⟩
  · exact ⟨_, rfl⟩

theorem emitPending_of_le (h : s.pending ≤ s.selector) :
    emitPending source s =
      declare source { s with pending := s.selector } s.pending s.selector := by
  rw [emitPending, if_neg (Nat.not_lt_of_le h)]

/-- Where the selector may begin, given the marks of a state: behind everything handed out, and no
later than the position. -/
def SelectorStart (s : SplitterState) (pos first : Nat) : Prop := s.pending ≤ first ∧ first ≤ pos

theorem InOrder.selectorStart (h : InOrder source pos s) : SelectorStart s pos s.selector :=
  ⟨h.pending_le, h.selector_le⟩

theorem InOrder.tentativeStart (h : InOrder source pos s) (hpos : pos < source.length) {t : Nat}
    (ht : s.tentative = some t) : SelectorStart s pos t :=
  ⟨h.pending_le_tentative hpos t ht, (h.tentative_mem t ht).2⟩

/-- Settling moves the start of the selector to the tentative one, or leaves it. In either case the
selector begins where it may. -/
theorem exists_settle (source : Text) (hselector : SelectorStart s pos s.selector)
    (htentative : ∀ {t}, s.tentative = some t → SelectorStart s pos t) :
    ∃ first, settle source s pos = { s with selector := first } ∧ SelectorStart s pos first := by
  rcases Option.eq_none_or_eq_some s.tentative with ht | ⟨t, ht⟩
  · exact ⟨s.selector, settle_of_none ht, hselector⟩
  · rw [settle_of_some ht]
    split
    · exact ⟨s.selector, rfl, hselector⟩
    · exact ⟨t, rfl, htentative ht⟩

/-- Marks that are all moved behind a position, outside braces, are in order. -/
theorem inOrder_beginAfter (source : Text) (pos : Nat) (hdepth : s.depth = 0)
    (hskip : s.interpolation = false) :
    InOrder source (min (pos + 1) source.length) (s.beginAfter pos source.length) where
  bound_le := Nat.min_le_right _ _
  pending_le := Nat.le_refl _
  selector_le := Nat.le_refl _
  boundary_le := Nat.le_refl _
  tentative_mem := fun _ ht => by cases ht
  pending_le_tentative := fun _ _ ht => by cases ht
  depth_pos := fun h => absurd (hskip.symm.trans h) Bool.false_ne_true
  brace_mem := fun hopen => absurd hdepth (Nat.ne_of_gt hopen)

/-- A brace outside braces: behind it the marks of the rule that it opens are in order. -/
theorem InOrder.openRule (h : InOrder source pos s) (hc : source[pos]? = some '{')
    (hdepth : s.depth = 0) : InOrder source (pos + 1) (openRule source s pos).2 := by
  obtain ⟨hpos, -⟩ := List.getElem?_eq_some_iff.1 hc
  have hskip := h.interpolation_eq hdepth
  rw [Splitter.openRule]
  simp only
  split
  · -- an interpolation moves no mark
    exact { h.succ hpos with
      depth_pos := fun _ => Nat.succ_pos _
      brace_mem := fun _ hrule => by cases hrule }
  · -- what lies before the selector is handed out, so the pending text begins with the selector
    obtain ⟨first, hsettle, hfirst⟩ :=
      exists_settle (s := { s with depth := s.depth + 1, brace := pos }) source h.selectorStart
        (h.tentativeStart hpos)
    obtain ⟨line, hdeclare⟩ := declare_eq_line source
      { s with depth := s.depth + 1, brace := pos, selector := first, pending := first } s.pending
      first
    rw [hsettle, emitPending_of_le hfirst.1, hdeclare]
    exact { h.succ hpos with
      pending_le := Nat.le_refl first
      selector_le := Nat.le_succ_of_le hfirst.2
      tentative_mem := fun _ ht => by cases ht
      pending_le_tentative := fun _ _ ht => by cases ht
      depth_pos := fun hopen => absurd (hskip.symm.trans hopen) Bool.false_ne_true
      brace_mem := fun _ _ => ⟨hfirst.2, Nat.lt_succ_self pos, hc⟩ }

/-- A brace that closes outermost braces. -/
theorem InOrder.closeRule (h : InOrder source pos s) (options : SplitOptions)
    (hdepth : s.depth = 1) :
    InOrder source (min (pos + 1) source.length) (closeRule source options s pos).2 := by
  have hclosed : s.depth - 1 = 0 := by rw [hdepth]
  rw [Splitter.closeRule]
  simp only
  split
  · -- an interpolation leaves the marks where they are
    rcases Nat.lt_or_ge pos source.length with hpos | hpos
    · rw [Nat.min_eq_left hpos]
      exact { h.succ hpos with
        depth_pos := fun hopen => by cases hopen
        brace_mem := fun hopen => absurd hclosed (Nat.ne_of_gt hopen) }
    · obtain rfl : pos = source.length := Nat.le_antisymm h.bound_le hpos
      rw [Nat.min_eq_right (Nat.le_succ _)]
      exact { h with
        depth_pos := fun hopen => by cases hopen
        brace_mem := fun hopen => absurd hclosed (Nat.ne_of_gt hopen) }
  · rename_i hrule
    exact inOrder_beginAfter source pos hclosed (Bool.eq_false_iff.2 hrule)

/-- A semicolon outside braces. -/
theorem InOrder.endDeclaration (h : InOrder source pos s) (hdepth : s.depth = 0) :
    InOrder source (min (pos + 1) source.length) (endDeclaration source s pos).2 := by
  obtain ⟨line, hdeclare⟩ := declare_eq_line source { s with selector := pos } s.pending pos
  change InOrder source _
    ((declare source { s with selector := pos } s.pending pos).2.beginAfter pos source.length)
  rw [hdeclare]
  exact inOrder_beginAfter source pos hdepth (h.interpolation_eq hdepth)

/-- A comma outside braces. -/
theorem InOrder.extendSelector (h : InOrder source pos s) (hpos : pos < source.length)
    (hdepth : s.depth = 0) : InOrder source (pos + 1) (extendSelector source s pos) := by
  obtain ⟨first, hsettle, hfirst⟩ :=
    exists_settle source h.selectorStart (h.tentativeStart hpos)
  rw [Splitter.extendSelector, hsettle]
  exact { h.succ hpos with
    pending_le := hfirst.1
    selector_le := Nat.le_succ_of_le hfirst.2
    boundary_le := Nat.le_refl _
    tentative_mem := fun _ ht => by cases ht
    pending_le_tentative := fun _ _ ht => by cases ht
    brace_mem := fun hopen => absurd hdepth (Nat.ne_of_gt hopen) }

/-- A tentative start behind a position that has been read, with the selector moved or not. -/
theorem InOrder.holdBehind (h : InOrder source pos s) (hpos : pos < source.length)
    (hdepth : s.depth = 0) {first : Nat} (hfirst : SelectorStart s pos first) :
    InOrder source (pos + 1) { s with selector := first, tentative := some (pos + 1) } :=
  { h.succ hpos with
    pending_le := hfirst.1
    selector_le := Nat.le_succ_of_le hfirst.2
    tentative_mem := fun _ ht =>
      Option.some.inj ht ▸ ⟨Nat.le_succ_of_le h.boundary_le, Nat.le_refl _⟩
    pending_le_tentative := fun _ _ ht =>
      Option.some.inj ht ▸ Nat.le_succ_of_le (Nat.le_trans h.pending_le h.selector_le)
    brace_mem := fun hopen => absurd hdepth (Nat.ne_of_gt hopen) }

/-- A line feed outside braces. -/
theorem InOrder.breakLine (h : InOrder source pos s) (hpos : pos < source.length)
    (hdepth : s.depth = 0) : InOrder source (pos + 1) (breakLine source s pos) := by
  rw [Splitter.breakLine]
  split
  · rename_i t ht
    split
    · exact h.succ hpos
    · exact h.holdBehind hpos hdepth (h.tentativeStart hpos ht)
  · split
    · exact h.succ hpos
    · exact h.holdBehind hpos hdepth h.selectorStart

/-! ### Reading a character -/

/-- What a character brings about keeps the marks in order. -/
theorem InOrder.perform (h : InOrder source pos s) (hc : source[pos]? = some c) {action : Action}
    (haction : action.Arises s.mode (Mark.of c)) :
    InOrder source (pos + 1) (perform source options action s pos).2 := by
  obtain ⟨hpos, -⟩ := List.getElem?_eq_some_iff.1 hc
  have hnext : min (pos + 1) source.length = pos + 1 := Nat.min_eq_left hpos
  have hread := h.succ hpos
  cases action with
  | beginString q => exact { hread with }
  | endString => exact { hread with }
  | endParens => exact { hread with }
  | beginParens =>
    exact { hread with
      boundary_le := Nat.le_refl _
      tentative_mem := fun _ ht => by cases ht
      pending_le_tentative := fun _ _ ht => by cases ht }
  | openInner =>
    have hdepth : 0 < s.depth :=
      Nat.pos_of_ne_zero fun hzero => haction (Nesting.ofDepth_eq_outside_iff.2 hzero)
    exact { hread with
      depth_pos := fun _ => Nat.succ_pos _
      brace_mem := fun _ hrule => hread.brace_mem hdepth hrule }
  | closeInner =>
    have hdepth : 1 < s.depth := Nesting.ofDepth_eq_inner_iff.1 haction
    exact { hread with
      depth_pos := fun _ => Nat.sub_pos_of_lt hdepth
      brace_mem := fun _ hrule => hread.brace_mem (Nat.zero_lt_of_lt hdepth) hrule }
  | extendSelector =>
    exact h.extendSelector hpos (Nesting.ofDepth_eq_outside_iff.1 haction.1)
  | breakLine => exact h.breakLine hpos (Nesting.ofDepth_eq_outside_iff.1 haction.1)
  | openOuter =>
    obtain rfl := Mark.of_eq_leftBrace haction.2
    exact h.openRule hc (Nesting.ofDepth_eq_outside_iff.1 haction.1)
  | closeOuter =>
    have hclose := h.closeRule options (Nesting.ofDepth_eq_outer_iff.1 haction.1)
    rwa [hnext] at hclose
  | endDeclaration =>
    have hend := h.endDeclaration (Nesting.ofDepth_eq_outside_iff.1 haction.1)
    rwa [hnext] at hend
  | emitPending => exact absurd haction (mark_of_ne_sourceEnd c)

/-- Reading a character keeps the marks in order. -/
theorem inOrder_readChar (options : SplitOptions) (h : InOrder source s.cursor s)
    (hc : source[s.cursor]? = some c) :
    InOrder source (s.cursor + 1) (readChar source options c s).2 := by
  obtain ⟨hpos, -⟩ := List.getElem?_eq_some_iff.1 hc
  have hread : InOrder source s.cursor { s with cursor := s.cursor + 1 } := { h with }
  rw [readChar]
  split
  · exact hread.succ hpos
  · rw [react]
    split
    · rename_i action haction
      exact hread.perform hc (LexicalMode.arises_of_action? haction)
    · exact hread.succ hpos

/-! ### The end of the source -/

/-- Handing out what lies before the selector keeps the marks in order. -/
theorem InOrder.react_sourceEnd (h : InOrder source source.length s) :
    InOrder source source.length (react source options .sourceEnd s source.length).2 := by
  rcases LexicalMode.action?_sourceEnd s.mode with hflush | hnone
  · obtain ⟨line, hdeclare⟩ :=
      declare_eq_line source { s with pending := s.selector } s.pending s.selector
    rw [SplitterState.mode_eq] at hflush
    rw [react_of_some source options hflush, Splitter.perform, emitPending_of_le h.pending_le,
      hdeclare]
    exact { h with
      pending_le := Nat.le_refl _
      pending_le_tentative := fun hlt => absurd hlt (Nat.lt_irrefl _) }
  · rw [react, hnone]
    exact h

/-- Outside braces, the selector may be moved to the end of the source. -/
theorem InOrder.selectorEnd (h : InOrder source source.length s) (hdepth : s.depth = 0) :
    InOrder source source.length { s with selector := source.length } :=
  { h with
    pending_le := Nat.le_trans h.pending_le h.selector_le
    selector_le := Nat.le_refl _
    brace_mem := fun hopen => absurd hdepth (Nat.ne_of_gt hopen) }

theorem depth_closeRule (source : Text) (options : SplitOptions) (s : SplitterState) (pos : Nat) :
    (closeRule source options s pos).2.depth = s.depth - 1 := by
  rw [closeRule]
  simp only
  split <;> rfl

/-- What closing everything that is open at the end of the source gives. -/
def closeAll (source : Text) (options : SplitOptions) (s : SplitterState) :
    Option Block × SplitterState :=
  if 0 < s.depth then
    react source options .rightBrace { s with parens := 0, quote := none, depth := 1 } source.length
  else (none, { s with parens := 0, quote := none })

/-- What the end of the source gives when nothing is open. -/
def flush (source : Text) (options : SplitOptions) (s : SplitterState) :
    Option Block × SplitterState :=
  if s.selector < source.length then
    react source options .sourceEnd { s with selector := source.length } source.length
  else (none, s)

theorem recover_eq_closeAll (source : Text) (options : SplitOptions) (s : SplitterState) :
    recover source options s =
      match closeAll source options s with
      | (some block, s') => (some block, s')
      | (none, s') =>
        react source options .sourceEnd { s' with selector := source.length } source.length := rfl

theorem conclude_of_none (h : s.openConstruct? = none) :
    conclude source options s =
      match flush source options s with
      | (some block, s') => (block, s')
      | (none, s') => (Block.finish s'.line, {}) := by
  rw [conclude, h]
  simp only
  rw [← flush]
  generalize flush source options s = answer
  obtain ⟨_ | block, s'⟩ := answer <;> rfl

/-- The closing brace at the end of the source is one of outermost braces, whatever the depth
was. -/
theorem InOrder.depthOne (h : InOrder source source.length s) (hdepth : 0 < s.depth) :
    InOrder source source.length { s with parens := 0, quote := none, depth := 1 } :=
  { h with
    depth_pos := fun _ => Nat.one_pos
    brace_mem := fun _ hrule => h.brace_mem hdepth hrule }

/-- Closing everything that is open keeps the marks in order. -/
theorem InOrder.closeAll (h : InOrder source source.length s) (options : SplitOptions) :
    InOrder source source.length (closeAll source options s).2 ∧
      (closeAll source options s).2.depth = 0 := by
  rw [Splitter.closeAll]
  split
  · rename_i hopen
    have hclose := (h.depthOne hopen).closeRule options rfl
    rw [Nat.min_eq_right (Nat.le_succ _)] at hclose
    exact ⟨hclose, depth_closeRule source options _ _⟩
  · rename_i hopen
    exact ⟨{ h with }, Nat.eq_zero_of_not_pos hopen⟩

theorem InOrder.recover (h : InOrder source source.length s) :
    InOrder source source.length (recover source options s).2 := by
  obtain ⟨hclosed, hdepth⟩ := h.closeAll options
  rw [recover_eq_closeAll]
  generalize Splitter.closeAll source options s = closed at hclosed hdepth
  obtain ⟨block, s'⟩ := closed
  cases block with
  | some b => exact hclosed
  | none => exact (hclosed.selectorEnd hdepth).react_sourceEnd

theorem InOrder.flush (h : InOrder source source.length s) (options : SplitOptions)
    (hdepth : s.depth = 0) :
    InOrder source source.length (flush source options s).2 := by
  rw [Splitter.flush]
  split
  · exact (h.selectorEnd hdepth).react_sourceEnd
  · exact h

theorem cursor_flush (source : Text) (options : SplitOptions) (s : SplitterState) :
    (flush source options s).2.cursor = s.cursor := by
  rw [flush]
  split
  · exact cursor_react source options _ _ _
  · rfl

theorem openConstruct?_eq_none_depth (h : s.openConstruct? = none) : s.depth = 0 := by
  rw [SplitterState.openConstruct?] at h
  split_ifs at h with hparens hquote hdepth
  exact Nat.eq_zero_of_not_pos hdepth

/-- The end of the source keeps the marks in order. -/
theorem inOrder_conclude (h : InOrder source s.cursor s) (hend : s.cursor = source.length) :
    InOrder source (conclude source options s).2.cursor (conclude source options s).2 := by
  rw [hend] at h
  cases hopen : s.openConstruct? with
  | some cause =>
    have hrecover : (conclude source options s).2 = (recover source options s).2 := by
      rw [conclude, hopen]
    rw [hrecover, cursor_recover, hend]
    exact h.recover
  | none =>
    have hflush := h.flush options (openConstruct?_eq_none_depth hopen)
    have hcursor := (cursor_flush source options s).trans hend
    rw [conclude_of_none hopen]
    generalize flush source options s = answer at hflush hcursor
    obtain ⟨block, s'⟩ := answer
    cases block with
    | some b => exact hcursor.symm ▸ hflush
    | none => exact inOrder_start source

end Order

end Splitter

end SheetLex
