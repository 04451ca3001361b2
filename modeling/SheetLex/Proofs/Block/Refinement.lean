import SheetLex.Proofs.Block.Cutter

/-!
# A splitter cuts as a cutter does

A splitter remembers cuts as positions in its source; a cutter holds the texts between them.
`Represents` says which texts a splitter's positions stand for. Reading one character keeps the
two together: the splitter hands out the block of the piece that the cutter hands out, if that
piece has one (`represents_readChar`). What a splitter does at the end of its source is what the
last piece yields (`conclude_eq`).

A new splitter has a tentative start of the selector, a restarted one has none. While nothing is
pending before the run, both stand for the same texts (`MarkedAt.run_start`).
-/

set_option autoImplicit false

namespace SheetLex

/-! ## Slices -/

theorem Text.slice_eq {source a b c : Text} {i j : Nat} (h : source = a ++ b ++ c)
    (hi : i = a.length) (hj : j = a.length + b.length) : Text.slice source i j = b := by
  rw [h, hi, hj, Text.slice, ← List.length_append, List.take_left, List.drop_left]

/-- The character before a point is the last one of the text before it. -/
theorem getElem?_pred_eq_some_iff (w r : Text) (c : Char) :
    (0 < w.length ∧ (w ++ r)[w.length - 1]? = some c) ↔ w.getLast? = some c := by
  rw [List.getLast?_eq_getElem?]
  constructor
  · rintro ⟨hpos, h⟩
    rwa [List.getElem?_append_left (Nat.sub_lt hpos Nat.one_pos)] at h
  · intro h
    have hlt := (List.getElem?_eq_some_iff.1 h).1
    refine ⟨Nat.lt_of_le_of_lt (Nat.zero_le _) hlt, ?_⟩
    rwa [List.getElem?_append_left hlt]

namespace Splitter

/-! ## The marks of a splitter -/

/-- The marks of a splitter cut the text behind `before` into the parts of `p`. -/
structure MarkedAt (before : Text) (p : Pending) (s : SplitterState) : Prop where
  pending : s.pending = before.length
  selector : s.selector = before.length + p.lead.length
  run_start :
    s.tentative = some (before.length + p.lead.length + p.held.length) ∧
        (p.loose = true ∨ p.lead = [] ∧ p.held = []) ∨
      s.tentative = none ∧ s.boundary = before.length + p.lead.length + p.held.length ∧
        p.loose = false

/-- A splitter stands at a place whose text begins behind `before`. -/
def PlacedAt (before : Text) (s : SplitterState) : Place → Prop
  | .outside p => MarkedAt before p s ∧ s.interpolation = decide (0 < s.depth)
  | .inside selector _ =>
    s.selector = before.length ∧ s.brace = before.length + selector.length ∧
      s.interpolation = false

/-- A splitter stands at a place of a source with the rest of the source before it. -/
def StandsAt (source rest : Text) (s : SplitterState) (place : Place) : Prop :=
  ∃ before, source = before ++ place.text ++ rest ∧ before.getLast? ≠ some '#' ∧
    PlacedAt before s place

/-- With `rest` still to read, the splitter and the cutter are at the same point. -/
structure Represents (source rest : Text) (s : SplitterState) (k : Cutter) : Prop where
  sound : k.Sound
  balance : s.balance = k.balance
  cursor : s.cursor + rest.length = source.length
  place : StandsAt source rest s k.place

theorem represents_start (source : Text) : Represents source source {} {} where
  sound := Cutter.sound_start
  balance := rfl
  cursor := Nat.zero_add _
  place := ⟨[], rfl, by decide, ⟨rfl, rfl, .inl ⟨rfl, .inr ⟨rfl, rfl⟩⟩⟩, rfl⟩

/-! ## The effects on marked text -/

section Marked

variable {source before rest : Text} {p : Pending} {s : SplitterState} {pos : Nat}

theorem MarkedAt.slice_run (h : source = before ++ p.text ++ rest)
    (hpos : pos = before.length + p.text.length) :
    Text.slice source (before.length + p.lead.length + p.held.length) pos = p.run := by
  refine Text.slice_eq (a := before ++ p.lead ++ p.held) (c := rest) ?_ ?_ ?_
  · rw [h, Pending.text]
    simp only [List.append_assoc]
  · simp only [List.length_append]
  · rw [hpos, Pending.text]
    simp only [List.length_append, Nat.add_assoc]

theorem settle_of_some {t : Nat} (h : s.tentative = some t) :
    settle source s pos =
      if isBlank (Text.slice source t pos) then s else { s with selector := t } := by
  rw [settle, h]

theorem settle_of_none (h : s.tentative = none) : settle source s pos = s := by
  rw [settle, h]

/-- Settling the tentative start moves the mark of the selector as it moves the text. -/
theorem MarkedAt.settle_eq (hs : MarkedAt before p s) (h : source = before ++ p.text ++ rest)
    (hpos : pos = before.length + p.text.length) :
    settle source s pos = { s with selector := before.length + p.settle.lead.length } := by
  have hsame : { s with selector := before.length + p.lead.length } = s := by
    rw [← hs.selector]
  rcases hs.run_start with ⟨htentative, hloose⟩ | ⟨htentative, -, hloose⟩
  · rw [settle_of_some htentative, slice_run h hpos, Pending.settle]
    cases hblank : isBlank p.run with
    | true =>
      rw [if_pos rfl, Bool.not_true, Bool.and_false, if_neg Bool.false_ne_true]
      exact hsame.symm
    | false =>
      rw [if_neg Bool.false_ne_true, Bool.not_false, Bool.and_true]
      rcases hloose with hloose | ⟨hlead, hheld⟩
      · rw [hloose, if_pos rfl, List.length_append, Nat.add_assoc]
      · -- nothing lies before the run, so taking its start changes nothing
        split
        · rw [List.length_append, Nat.add_assoc]
        · rw [hheld]
          rfl
  · rw [settle_of_none htentative, Pending.settle, hloose]
    exact hsame.symm

/-- Breaking the line settles the tentative start and puts a new one behind the line feed, unless
the run is blank. -/
theorem MarkedAt.breakLine_eq (hs : MarkedAt before p s) (h : source = before ++ p.text ++ rest)
    (hpos : pos = before.length + p.text.length) :
    breakLine source s pos =
      if isBlank p.run then s else { settle source s pos with tentative := some (pos + 1) } := by
  have hrun := slice_run h hpos
  rcases hs.run_start with ⟨htentative, -⟩ | ⟨htentative, hboundary, -⟩
  · rw [breakLine, settle_of_some htentative, hrun]
    simp only [htentative, hrun]
    split <;> rfl
  · rw [breakLine, settle_of_none htentative, ← hrun, ← hboundary]
    simp only [htentative]

/-- The same marks serve when the run grows. -/
theorem MarkedAt.add (hs : MarkedAt before p s) (c : Char) : MarkedAt before (p.add c) s :=
  ⟨hs.pending, hs.selector, hs.run_start⟩

/-- A declaration is handed out as its piece yields. -/
theorem declare_eq (options : SplitOptions) {t : Text} (closed : Bool) (s : SplitterState)
    {first last : Nat} (h : Text.slice source first last = t) :
    declare source s first last =
      ((({ head := t, closed } : Piece).yield options s.line).1,
        { s with line := (({ head := t, closed } : Piece).yield options s.line).2 }) := by
  rw [declare, h, Piece.yield, Piece.isSilent, condense_isEmpty]
  cases isBlank t <;> rfl

/-- A rule is handed out as its piece yields. -/
theorem closeRule_eq (options : SplitOptions) {head body : Text} (closed : Bool)
    (s : SplitterState) {pos : Nat} (hs : s.interpolation = false)
    (hhead : Text.slice source s.selector s.brace = head)
    (hbody : Text.slice source (s.brace + 1) pos = body) :
    closeRule source options s pos =
      ((({ head, body := some body, closed } : Piece).yield options s.line).1,
        ({ s with
          depth := s.depth - 1
          line := (({ head, body := some body, closed } : Piece).yield options s.line).2
          } : SplitterState).beginAfter pos source.length) := by
  subst hhead hbody
  rw [closeRule]
  simp only
  rw [if_neg (by rw [hs]; decide)]
  rfl

end Marked

/-! ## Characters that cut nothing -/

/-- The state behind a character that changes only what is open, and the boundary if it opens a
parenthesis. -/
def absorb (s : SplitterState) (c : Char) : SplitterState :=
  let b := s.balance.read c
  let next := { s with cursor := s.cursor + 1, quote := b.quote, parens := b.parens, depth := b.depth }
  if s.quote = none ∧ Mark.of c = .leftParen then
    { next with tentative := none, boundary := s.cursor + 1 }
  else next

/-- The character has no effect on blocks: no other construct is open and it is not one of the
four marks outside, or one is open and it does not close the outermost braces. -/
def CutsNothing (b : Balance) (m : Mark) : Prop :=
  ¬ (b = .free ∧ (m = .semicolon ∨ m = .leftBrace ∨ m = .comma ∨ m = .lineFeed)) ∧
    ¬ (b = { depth := 1 } ∧ m = .rightBrace)

theorem mark_of_ne_sourceEnd (c : Char) : Mark.of c ≠ .sourceEnd := by
  unfold Mark.of
  repeat' split
  all_goals decide

theorem readChar_eq_absorb (source : Text) (options : SplitOptions) (s : SplitterState) (c : Char)
    (h : CutsNothing s.balance (Mark.of c)) :
    readChar source options c s = (none, absorb s c) := by
  obtain ⟨cursor, line, depth, parens, quote, interpolation, pending, selector, boundary,
    tentative, brace⟩ := s
  have hend := mark_of_ne_sourceEnd c
  rw [readChar]
  split
  · -- a hint mark is read without looking at the mode
    rename_i hmark
    subst hmark
    cases quote <;> rfl
  · rw [react, absorb]
    cases quote with
    | some opened =>
      cases hmark : Mark.of c with
      | quote q =>
        by_cases hq : opened = q
        · simp [SplitterState.mode, SplitterState.balance, LexicalMode.action?, perform,
            Balance.read, hmark, hq]
        · simp [SplitterState.mode, SplitterState.balance, LexicalMode.action?, Balance.read,
            hmark, hq]
      | _ =>
        simp [SplitterState.mode, SplitterState.balance, LexicalMode.action?, Balance.read, hmark]
    | none =>
      cases parens with
      | succ n =>
        cases hmark : Mark.of c <;>
          simp [SplitterState.mode, SplitterState.balance, LexicalMode.action?, perform,
            Balance.read, hmark]
      | zero =>
        rcases depth with _ | _ | depth
        all_goals
          cases hmark : Mark.of c <;>
            simp_all [SplitterState.mode, SplitterState.balance, LexicalMode.action?,
              Nesting.action?, Nesting.ofDepth, perform, Balance.read, CutsNothing, Balance.free]

/-- Such a character leaves a point outside braces or inside them. -/
theorem depth_read_pos_iff {b : Balance} {c : Char} (h : CutsNothing b (Mark.of c)) :
    0 < (b.read c).depth ↔ 0 < b.depth := by
  obtain ⟨quote, parens, depth⟩ := b
  cases quote with
  | some opened =>
    rw [Balance.read]
    cases Mark.of c with
    | quote q => by_cases hq : opened = q <;> simp [hq]
    | _ => rfl
  | none =>
    rw [Balance.read]
    cases parens with
    | succ n => cases Mark.of c <;> simp
    | zero =>
      rcases depth with _ | _ | depth
      all_goals cases hmark : Mark.of c <;> simp_all [CutsNothing, Balance.free]

theorem MarkedAt.absorb {before : Text} {p : Pending} {s : SplitterState}
    (hs : MarkedAt before p s) (hcursor : s.cursor = before.length + p.text.length) (c : Char) :
    MarkedAt before (p.absorb s.balance c) (absorb s c) := by
  have hquote : s.balance.quote = s.quote := rfl
  rw [Pending.absorb, Splitter.absorb, hquote]
  split
  · -- a parenthesis withdraws the tentative start, and the boundary takes its place
    refine ⟨hs.pending, hs.selector, .inr ⟨rfl, ?_, rfl⟩⟩
    change s.cursor + 1 = _
    rw [hcursor, Pending.text]
    simp only [Pending.hold, List.length_append, List.length_singleton]
    omega
  · exact ⟨hs.pending, hs.selector, hs.run_start⟩

theorem absorb_depth (s : SplitterState) (c : Char) :
    (absorb s c).depth = (s.balance.read c).depth := by
  rw [absorb]
  split <;> rfl

theorem absorb_interpolation (s : SplitterState) (c : Char) :
    (absorb s c).interpolation = s.interpolation := by
  rw [absorb]
  split <;> rfl

theorem absorb_line (s : SplitterState) (c : Char) : (absorb s c).line = s.line := by
  rw [absorb]
  split <;> rfl

theorem absorb_selector (s : SplitterState) (c : Char) : (absorb s c).selector = s.selector := by
  rw [absorb]
  split <;> rfl

theorem absorb_brace (s : SplitterState) (c : Char) : (absorb s c).brace = s.brace := by
  rw [absorb]
  split <;> rfl

/-! ## The cursor -/

section Cursor

variable (source : Text) (options : SplitOptions)

theorem cursor_declare (s : SplitterState) (first last : Nat) :
    (declare source s first last).2.cursor = s.cursor := by
  rw [declare]
  split <;> rfl

theorem cursor_emitPending (s : SplitterState) :
    (emitPending source s).2.cursor = s.cursor := by
  rw [emitPending]
  split
  · rfl
  · exact cursor_declare source _ _ _

theorem cursor_settle (s : SplitterState) (pos : Nat) :
    (settle source s pos).cursor = s.cursor := by
  rw [settle]
  split
  · split <;> rfl
  · rfl

theorem cursor_perform (action : Action) (s : SplitterState) (pos : Nat) :
    (perform source options action s pos).2.cursor = s.cursor := by
  cases action with
  | openOuter =>
    rw [perform, openRule]
    split
    · rfl
    · exact (cursor_emitPending source _).trans (cursor_settle source _ pos)
  | closeOuter =>
    rw [perform, closeRule]
    simp only
    split <;> rfl
  | endDeclaration => exact cursor_declare source _ _ _
  | extendSelector => exact cursor_settle source s pos
  | breakLine =>
    rw [perform, breakLine]
    split <;> split <;> rfl
  | emitPending => exact cursor_emitPending source s
  | _ => rfl

theorem cursor_react (m : Mark) (s : SplitterState) (pos : Nat) :
    (react source options m s pos).2.cursor = s.cursor := by
  rw [react]
  split
  · exact cursor_perform source options _ _ _
  · rfl

theorem cursor_readChar (c : Char) (s : SplitterState) :
    (readChar source options c s).2.cursor = s.cursor + 1 := by
  rw [readChar]
  split
  · rfl
  · exact cursor_react source options _ _ _

end Cursor

/-! ## One step of both -/

/-- What a piece, if there is one, yields. -/
def yieldOf (options : SplitOptions) (line : Nat) : Option Piece → Option Block × Nat
  | none => (none, line)
  | some p => p.yield options line

/-- What a splitter answers to a character for which a cutter hands out `o` and goes on at
`place`. -/
def Answers (source rest : Text) (options : SplitOptions) (line : Nat) (o : Option Piece)
    (place : Place) (answer : Option Block × SplitterState) : Prop :=
  (answer.1, answer.2.line) = yieldOf options line o ∧ StandsAt source rest answer.2 place

/-- Outside rules, a splitter stands before the character `c`. -/
structure Facing (source before rest : Text) (s : SplitterState) (p : Pending) (c : Char) :
    Prop where
  placed : PlacedAt before s (.outside p)
  source_eq : source = before ++ p.text ++ c :: rest
  before_end : before.getLast? ≠ some '#'
  cursor : s.cursor = before.length + p.text.length

section Step

variable {source before rest : Text} {options : SplitOptions} {s : SplitterState} {p : Pending}
variable {c : Char}

theorem readChar_eq_perform {action : Action} (hc : c ≠ hintMark)
    (h : s.balance.mode.action? (Mark.of c) = some action) :
    readChar source options c s =
      perform source options action { s with cursor := s.cursor + 1 } s.cursor := by
  rw [readChar, if_neg hc]
  exact react_of_some source options h

theorem answers_absorb (hat : Facing source before rest s p c)
    (h : CutsNothing s.balance (Mark.of c)) :
    Answers source rest options s.line none (.outside (p.absorb s.balance c))
      (readChar source options c s) := by
  obtain ⟨hs, hsource, hbefore, hcursor⟩ := hat
  rw [readChar_eq_absorb source options s c h]
  refine ⟨congrArg (Prod.mk none) (absorb_line s c), before, ?_, hbefore, hs.1.absorb hcursor c, ?_⟩
  · simp [hsource, Place.text]
  · rw [absorb_interpolation, absorb_depth, hs.2, decide_eq_decide]
    exact (depth_read_pos_iff h).symm

theorem answers_declare (hat : Facing source before rest s p ';') (hfree : s.balance = .free) :
    Answers source rest options s.line (some { head := p.text, closed := true }) (.outside {})
      (readChar source options ';' s) := by
  obtain ⟨hs, hsource, -, hcursor⟩ := hat
  have hslice : Text.slice source s.pending s.cursor = p.text :=
    Text.slice_eq hsource hs.1.pending hcursor
  have hnext : min (s.cursor + 1) source.length = (before ++ p.text ++ [';']).length := by
    rw [hsource, hcursor]
    simp only [List.length_append, List.length_cons, List.length_nil]
    omega
  rw [readChar_eq_perform (by decide) (by rw [hfree]; rfl), perform, endDeclaration,
    declare_eq options true _ hslice]
  refine ⟨rfl, before ++ p.text ++ [';'], ?_, ?_, ⟨hnext, hnext, .inr ⟨rfl, hnext, rfl⟩⟩, ?_⟩
  · rw [hsource]
    simp [Place.text, Pending.text]
  · rw [List.getLast?_concat]
    decide
  · change s.interpolation = decide (0 < s.depth)
    exact hs.2

theorem Facing.hash_iff (h : Facing source before rest s p c) :
    (0 < s.cursor ∧ source[s.cursor - 1]? = some '#') ↔ p.text.getLast? = some '#' := by
  rw [h.source_eq, h.cursor, ← List.length_append, getElem?_pred_eq_some_iff, List.getLast?_append]
  cases hlast : p.text.getLast? with
  | none => simpa using h.before_end
  | some d => rfl

theorem answers_interpolation (hat : Facing source before rest s p '{') (hfree : s.balance = .free)
    (hhash : p.text.getLast? = some '#') :
    Answers source rest options s.line none (.outside (p.add '{'))
      (readChar source options '{' s) := by
  have ⟨hs, hsource, hbefore, _⟩ := hat
  rw [readChar_eq_perform (by decide) (by rw [hfree]; rfl), perform, openRule]
  simp only
  rw [if_pos (hat.hash_iff.2 hhash)]
  refine ⟨rfl, before, ?_, hbefore, ⟨hs.1.pending, hs.1.selector, hs.1.run_start⟩, ?_⟩
  · simp [hsource, Place.text]
  · exact (decide_eq_true (Nat.succ_pos s.depth)).symm

theorem answers_openRule (hat : Facing source before rest s p '{') (hp : p.Sound)
    (hfree : s.balance = .free) (hhash : p.text.getLast? ≠ some '#') :
    Answers source rest options s.line (some { head := p.settle.lead })
      (.inside p.settle.selector []) (readChar source options '{' s) := by
  have ⟨hs, hsource, _, hcursor⟩ := hat
  -- the marks are not moved before the selector is settled
  have hmarked : MarkedAt before p
      { s with cursor := s.cursor + 1, depth := s.depth + 1, brace := s.cursor } :=
    ⟨hs.1.pending, hs.1.selector, hs.1.run_start⟩
  have hlead : source = before ++ p.settle.lead ++ (p.settle.selector ++ '{' :: rest) := by
    rw [hsource, ← p.text_settle, ← p.settle.lead_append_selector]
    simp only [List.append_assoc]
  have hslice : Text.slice source s.pending (before.length + p.settle.lead.length) =
      p.settle.lead := Text.slice_eq hlead hs.1.pending rfl
  have horder : ¬ before.length + p.settle.lead.length < s.pending := by
    rw [hs.1.pending]
    omega
  rw [readChar_eq_perform (by decide) (by rw [hfree]; rfl), perform, openRule]
  simp only
  rw [if_neg (fun h => hhash (hat.hash_iff.1 h)),
    hmarked.settle_eq hsource hcursor, emitPending, if_neg horder,
    declare_eq options false _ hslice]
  refine ⟨rfl, before ++ p.settle.lead, ?_, ?_, ?_, ?_, ?_⟩
  · rw [hlead]
    simp [Place.text]
  · -- the lead ends with a line feed, so the hash test sees no hash before the selector
    rcases hp.settle.lead_end with hnil | hfeed
    · rwa [hnil, List.append_nil]
    · rw [List.getLast?_append, hfeed]
      change some '\n' ≠ some '#'
      decide
  · exact (List.length_append).symm
  · change s.cursor = _
    rw [hcursor, ← p.text_settle, ← p.settle.lead_append_selector]
    simp only [List.length_append, Nat.add_assoc]
  · change s.interpolation = false
    have hdepth : s.depth = 0 := congrArg Balance.depth hfree
    rw [hs.2, hdepth]
    rfl

theorem answers_extendSelector (hat : Facing source before rest s p ',') (hfree : s.balance = .free) :
    Answers source rest options s.line none (.outside (p.settle.hold ',' false))
      (readChar source options ',' s) := by
  obtain ⟨hs, hsource, hbefore, hcursor⟩ := hat
  have hmarked : MarkedAt before p { s with cursor := s.cursor + 1 } :=
    ⟨hs.1.pending, hs.1.selector, hs.1.run_start⟩
  rw [readChar_eq_perform (by decide) (by rw [hfree]; rfl), perform, extendSelector,
    hmarked.settle_eq hsource hcursor]
  refine ⟨rfl, before, ?_, hbefore, ⟨hs.1.pending, rfl, .inr ⟨rfl, ?_, rfl⟩⟩, hs.2⟩
  · simp [hsource, Place.text]
  · change s.cursor + 1 = _
    rw [hcursor, ← p.text_settle, Pending.text]
    simp only [Pending.hold, List.length_append, List.length_singleton]
    omega

theorem answers_breakLine (hat : Facing source before rest s p '\n') (hfree : s.balance = .free) :
    Answers source rest options s.line none (.outside (p.breakLine '\n'))
      (readChar source options '\n' s) := by
  obtain ⟨hs, hsource, hbefore, hcursor⟩ := hat
  have hmarked : MarkedAt before p { s with cursor := s.cursor + 1 } :=
    ⟨hs.1.pending, hs.1.selector, hs.1.run_start⟩
  rw [readChar_eq_perform (by decide) (by rw [hfree]; rfl), perform,
    hmarked.breakLine_eq hsource hcursor, hmarked.settle_eq hsource hcursor, Pending.breakLine]
  split
  · refine ⟨rfl, before, ?_, hbefore, ⟨hs.1.pending, hs.1.selector, hs.1.run_start⟩, hs.2⟩
    simp [hsource, Place.text]
  · refine ⟨rfl, before, ?_, hbefore, ⟨hs.1.pending, rfl, .inl ⟨?_, .inl rfl⟩⟩, hs.2⟩
    · simp [hsource, Place.text]
    · change some (s.cursor + 1) = _
      rw [hcursor, ← p.text_settle, Pending.text]
      simp only [Pending.hold, List.length_append, List.length_singleton]
      refine congrArg some ?_
      omega

theorem closeOuter_of (hbalance : s.balance = { depth := 1 }) :
    s.balance.mode.action? (Mark.of '}') = some .closeOuter := by
  rw [hbalance]
  rfl

theorem answers_closeInterpolation (hat : Facing source before rest s p '}')
    (hbalance : s.balance = { depth := 1 }) :
    Answers source rest options s.line none (.outside (p.add '}'))
      (readChar source options '}' s) := by
  obtain ⟨hs, hsource, hbefore, -⟩ := hat
  have hdepth : s.depth = 1 := congrArg Balance.depth hbalance
  have hinterpolation : s.interpolation = true := by
    rw [hs.2, hdepth]
    rfl
  rw [readChar_eq_perform (by decide) (closeOuter_of hbalance), perform, closeRule]
  simp only
  rw [if_pos hinterpolation]
  refine ⟨rfl, before, ?_, hbefore, ⟨hs.1.pending, hs.1.selector, hs.1.run_start⟩, ?_⟩
  · simp [hsource, Place.text]
  · change false = decide (0 < s.depth - 1)
    rw [hdepth]
    rfl

theorem answers_closeRule {selector body : Text} (hs : PlacedAt before s (.inside selector body))
    (hsource : source = before ++ (selector ++ '{' :: body) ++ '}' :: rest)
    (hcursor : s.cursor = before.length + (selector ++ '{' :: body).length)
    (hbalance : s.balance = { depth := 1 }) :
    Answers source rest options s.line
      (some { head := selector, body := some body, closed := true }) (.outside {})
      (readChar source options '}' s) := by
  obtain ⟨hselector, hbrace, hinterpolation⟩ := hs
  have hdepth : s.depth = 1 := congrArg Balance.depth hbalance
  have hhead : Text.slice source s.selector s.brace = selector :=
    Text.slice_eq (c := '{' :: body ++ '}' :: rest) (by rw [hsource]; simp) hselector hbrace
  have hbody : Text.slice source (s.brace + 1) s.cursor = body := by
    refine Text.slice_eq (a := before ++ selector ++ ['{']) (c := '}' :: rest) ?_ ?_ ?_
    · rw [hsource]
      simp
    · rw [hbrace]
      simp [Nat.add_assoc]
    · rw [hcursor]
      simp only [List.length_append, List.length_cons, List.length_nil]
      omega
  have hnext : min (s.cursor + 1) source.length =
      (before ++ (selector ++ '{' :: body) ++ ['}']).length := by
    rw [hsource, hcursor]
    simp only [List.length_append, List.length_cons, List.length_nil]
    omega
  have hclose := closeRule_eq options true { s with cursor := s.cursor + 1 } hinterpolation
    hhead hbody
  rw [readChar_eq_perform (by decide) (closeOuter_of hbalance), perform, hclose]
  refine ⟨rfl, before ++ (selector ++ '{' :: body) ++ ['}'], ?_, ?_,
    ⟨hnext, hnext, .inr ⟨rfl, hnext, rfl⟩⟩, ?_⟩
  · rw [hsource]
    simp [Place.text, Pending.text]
  · rw [List.getLast?_concat]
    decide
  · change s.interpolation = decide (0 < s.depth - 1)
    rw [hinterpolation, hdepth]
    rfl

theorem answers_growBody {selector body : Text} (hs : PlacedAt before s (.inside selector body))
    (hsource : source = before ++ (selector ++ '{' :: body) ++ c :: rest)
    (hbefore : before.getLast? ≠ some '#') (h : CutsNothing s.balance (Mark.of c)) :
    Answers source rest options s.line none (.inside selector (body ++ [c]))
      (readChar source options c s) := by
  obtain ⟨hselector, hbrace, hinterpolation⟩ := hs
  rw [readChar_eq_absorb source options s c h]
  refine ⟨congrArg (Prod.mk none) (absorb_line s c), before, ?_, hbefore, ?_, ?_, ?_⟩
  · simp [hsource, Place.text]
  · rw [absorb_selector, hselector]
  · rw [absorb_brace, hbrace]
  · rw [absorb_interpolation, hinterpolation]

end Step

section Both

variable {source rest : Text} {s : SplitterState} {k : Cutter} {c : Char}

/-- Outside rules, splitter and cutter answer a character alike. -/
theorem answers_outside {before : Text} {p : Pending} (options : SplitOptions)
    (hat : Facing source before rest s p c) (hp : p.Sound) :
    Answers source rest options s.line (p.read s.balance c).1 (p.read s.balance c).2
      (readChar source options c s) := by
  have absorbed : CutsNothing s.balance (Mark.of c) →
      Answers source rest options s.line none (.outside (p.absorb s.balance c))
        (readChar source options c s) := answers_absorb hat
  rw [Pending.read]
  by_cases hfree : s.balance = .free
  · have hopen : ¬ (s.balance = { depth := 1 } ∧ Mark.of c = .rightBrace) := by
      rw [hfree]
      rintro ⟨h, -⟩
      exact absurd h (by decide)
    rw [if_pos hfree]
    split
    · rename_i hmark
      obtain rfl : c = ';' := Mark.eq_of_of_eq hmark rfl
      exact answers_declare hat hfree
    · rename_i hmark
      obtain rfl : c = '{' := Mark.eq_of_of_eq hmark rfl
      split
      · rename_i hhash
        exact answers_interpolation hat hfree hhash
      · rename_i hhash
        exact answers_openRule hat hp hfree hhash
    · rename_i hmark
      obtain rfl : c = ',' := Mark.eq_of_of_eq hmark rfl
      exact answers_extendSelector hat hfree
    · rename_i hmark
      obtain rfl : c = '\n' := Mark.eq_of_of_eq hmark rfl
      exact answers_breakLine hat hfree
    · -- none of the four marks: nothing is cut
      rename_i hsemicolon hbrace hcomma hfeed
      refine absorbed ⟨?_, hopen⟩
      rintro ⟨-, hmark | hmark | hmark | hmark⟩
      · exact hsemicolon hmark
      · exact hbrace hmark
      · exact hcomma hmark
      · exact hfeed hmark
  · rw [if_neg hfree]
    by_cases hclose : s.balance = { depth := 1 } ∧ Mark.of c = .rightBrace
    · -- the brace closes an interpolation, which the cutter absorbs like any text
      obtain rfl : c = '}' := Mark.eq_of_of_eq hclose.2 rfl
      have hadd : p.absorb s.balance '}' = p.add '}' := by
        rw [Pending.absorb, if_neg]
        rintro ⟨-, hmark⟩
        cases hmark
      rw [hadd]
      exact answers_closeInterpolation hat hclose.1
    · exact absorbed ⟨fun h => hfree h.1, hclose⟩

/-- In the body of a rule, splitter and cutter answer a character alike. -/
theorem answers_inside {before selector body : Text} (options : SplitOptions)
    (hs : PlacedAt before s (.inside selector body)) (hdepth : 0 < s.depth)
    (hsource : source = before ++ (selector ++ '{' :: body) ++ c :: rest)
    (hbefore : before.getLast? ≠ some '#')
    (hcursor : s.cursor = before.length + (selector ++ '{' :: body).length) :
    Answers source rest options s.line
      ((⟨s.balance, .inside selector body⟩ : Cutter).readAt c).1
      ((⟨s.balance, .inside selector body⟩ : Cutter).readAt c).2
      (readChar source options c s) := by
  rw [Cutter.readAt]
  simp only
  split
  · rename_i hclose
    obtain rfl : c = '}' := Mark.eq_of_of_eq hclose.2 rfl
    exact answers_closeRule hs hsource hcursor hclose.1
  · rename_i hclose
    refine answers_growBody hs hsource hbefore ⟨?_, hclose⟩
    rintro ⟨hfree, -⟩
    have : s.depth = 0 := congrArg Balance.depth hfree
    omega

/-- Reading a character keeps splitter and cutter together, and the splitter hands out what the
cutter's piece yields. -/
theorem represents_readChar (options : SplitOptions) (h : Represents source (c :: rest) s k) :
    ((readChar source options c s).1, (readChar source options c s).2.line) =
        yieldOf options s.line (k.read c).1 ∧
      Represents source rest (readChar source options c s).2 (k.read c).2 := by
  obtain ⟨hsound, hbalance, hcursor, before, hsource, hbefore, hplace⟩ := h
  -- the cursor stands behind the text of the place
  have hpos : s.cursor = before.length + k.place.text.length := by
    have hlength := congrArg List.length hsource
    simp only [List.length_append, List.length_cons] at hlength hcursor
    omega
  have answers : Answers source rest options s.line (k.readAt c).1 (k.readAt c).2
      (readChar source options c s) := by
    obtain ⟨balance, place⟩ := k
    subst hbalance
    cases place with
    | outside p => exact answers_outside options ⟨hplace, hsource, hbefore, hpos⟩ (hsound.pending rfl).1
    | inside selector body =>
      exact answers_inside options hplace (hsound.depth_pos rfl) hsource hbefore hpos
  refine ⟨answers.1, hsound.read c, ?_, ?_, answers.2⟩
  · rw [balance_readChar, hbalance]
    rfl
  · rw [cursor_readChar, ← hcursor, List.length_cons]
    omega

end Both

end Splitter

end SheetLex
