import SheetLex.Block.Splitter

/-!
# What is open at a point of the source

`Balance` counts the constructs open at a point: the quote of an open string, the open
parentheses, the open braces. `Balance.read` is a scan that keeps the count and knows nothing of
blocks or of the marks in the pending text. A splitter keeps exactly this count, whatever else it
does with a character (`balance_readChar`), and what it reports at the end of the source is read
off the count (`openConstruct?_eq`).
-/

set_option autoImplicit false

namespace SheetLex

/-- The constructs open at a point of a source. -/
structure Balance where
  /-- The quote that opened the string around the point. -/
  quote : Option Quote := none
  /-- The number of open parentheses. -/
  parens : Nat := 0
  /-- The number of open braces. -/
  depth : Nat := 0
deriving DecidableEq, Repr

namespace Balance

/-- Nothing is open. -/
def free : Balance := {}

/-- Read a character. A string ends at the quote that opened it. Parentheses count outside
strings, braces outside strings and parentheses; what closes nothing does not count. -/
def read (b : Balance) (c : Char) : Balance :=
  match b.quote, Mark.of c with
  | some opened, .quote q => if opened = q then { b with quote := none } else b
  | some _, _ => b
  | none, .quote q => { b with quote := some q }
  | none, .leftParen => { b with parens := b.parens + 1 }
  | none, .rightParen => { b with parens := b.parens - 1 }
  | none, .leftBrace => if b.parens = 0 then { b with depth := b.depth + 1 } else b
  | none, .rightBrace => if b.parens = 0 then { b with depth := b.depth - 1 } else b
  | none, _ => b

/-- Read a text. -/
def readAll (b : Balance) (t : Text) : Balance := t.foldl read b

/-- What is open behind a text. -/
def after (t : Text) : Balance := free.readAll t

theorem readAll_append (b : Balance) (s t : Text) :
    b.readAll (s ++ t) = (b.readAll s).readAll t := List.foldl_append

theorem after_append (s t : Text) : after (s ++ t) = (after s).readAll t :=
  readAll_append free s t

theorem after_concat (t : Text) (c : Char) : after (t ++ [c]) = (after t).read c :=
  after_append t [c]

/-- The construct to report if the source ends here. -/
def openConstruct? (b : Balance) : Option OpenConstruct :=
  if 0 < b.parens then some .parenthesis
  else if b.quote.isSome then some .string
  else if 0 < b.depth then some .block
  else none

theorem openConstruct?_eq_none_iff (b : Balance) : b.openConstruct? = none ↔ b = free := by
  obtain ⟨quote, parens, depth⟩ := b
  cases quote with
  | none => cases parens <;> cases depth <;> simp [openConstruct?, free]
  | some q => cases parens <;> simp [openConstruct?, free]

/-- The change that an action makes to what is open. -/
def perform (b : Balance) : Action → Balance
  | .beginString q => { b with quote := some q }
  | .endString => { b with quote := none }
  | .beginParens => { b with parens := b.parens + 1 }
  | .endParens => { b with parens := b.parens - 1 }
  | .openOuter | .openInner => { b with depth := b.depth + 1 }
  | .closeOuter | .closeInner => { b with depth := b.depth - 1 }
  | .endDeclaration | .extendSelector | .breakLine | .emitPending => b

/-- The lexical mode that depends on what is open. -/
def mode (b : Balance) : LexicalMode :=
  ⟨b.quote, decide (0 < b.parens), Nesting.ofDepth b.depth⟩

/-- The table of effects and the scan agree on what a character opens and closes. -/
theorem read_eq_perform (b : Balance) (c : Char) :
    b.read c = ((b.mode.action? (Mark.of c)).map b.perform).getD b := by
  obtain ⟨quote, parens, depth⟩ := b
  cases quote with
  | some opened =>
    -- in a string, only the quote that opened it has an effect
    cases hmark : Mark.of c with
    | quote q =>
      by_cases hq : opened = q
      · simp [read, mode, LexicalMode.action?, perform, hmark, hq]
      · simp [read, mode, LexicalMode.action?, hmark, hq]
    | _ => simp [read, mode, LexicalMode.action?, hmark]
  | none =>
    cases parens with
    | succ n => cases hmark : Mark.of c <;> simp [read, mode, LexicalMode.action?, perform, hmark]
    | zero =>
      -- outside braces, in the outermost pair, or further inside: the table tells the three apart
      rcases depth with _ | _ | depth
      all_goals
        cases hmark : Mark.of c <;>
          simp [read, mode, LexicalMode.action?, Nesting.action?, Nesting.ofDepth, perform, hmark]

/-- From nothing open, only an opening character leads to something open. -/
theorem opens_of_read_free_ne {c : Char} (h : free.read c ≠ free) :
    (∃ q, Mark.of c = .quote q) ∨ Mark.of c = .leftParen ∨ Mark.of c = .leftBrace := by
  rw [read] at h
  split at h
  · rename_i hquote _
    cases hquote
  · rename_i hquote _
    cases hquote
  · rename_i q _ hmark
    exact .inl ⟨q, hmark⟩
  · rename_i hmark
    exact .inr (.inl hmark)
  · exact absurd rfl h
  · rename_i hmark
    exact .inr (.inr hmark)
  · exact absurd rfl h
  · exact absurd rfl h

/-- Inside braces, only the closing brace of the outermost pair leads outside. -/
theorem depth_read_pos {b : Balance} {c : Char} (hdepth : 0 < b.depth)
    (h : ¬ (b = { depth := 1 } ∧ Mark.of c = .rightBrace)) : 0 < (b.read c).depth := by
  obtain ⟨quote, parens, depth⟩ := b
  rw [read]
  split
  · split <;> exact hdepth
  · exact hdepth
  · exact hdepth
  · exact hdepth
  · exact hdepth
  · split
    · exact Nat.succ_pos depth
    · exact hdepth
  · rename_i hquote hmark
    split
    · -- a brace that counts closes a pair, and by assumption not the outermost one
      rename_i hparens
      have hne : depth ≠ 1 := by
        rintro rfl
        simp only at hquote hparens
        exact h ⟨by rw [hquote, hparens], hmark⟩
      exact Nat.sub_pos_of_lt (Nat.lt_of_le_of_ne hdepth (Ne.symm hne))
    · exact hdepth
  · exact hdepth

end Balance

/-! ## The count that a splitter keeps -/

namespace SplitterState

/-- What a splitter takes to be open. -/
def balance (s : SplitterState) : Balance := ⟨s.quote, s.parens, s.depth⟩

theorem mode_eq (s : SplitterState) : s.mode = s.balance.mode := rfl

theorem openConstruct?_eq (s : SplitterState) :
    s.openConstruct? = s.balance.openConstruct? := rfl

end SplitterState

namespace Splitter

variable (source : Text) (options : SplitOptions)

theorem balance_declare (s : SplitterState) (first last : Nat) :
    (declare source s first last).2.balance = s.balance := by
  rw [declare]
  split <;> rfl

theorem balance_emitPending (s : SplitterState) :
    (emitPending source s).2.balance = s.balance := by
  rw [emitPending]
  split
  · rfl
  · exact balance_declare source _ _ _

theorem balance_settle (s : SplitterState) (pos : Nat) :
    (settle source s pos).balance = s.balance := by
  rw [settle]
  split
  · split <;> rfl
  · rfl

theorem balance_breakLine (s : SplitterState) (pos : Nat) :
    (breakLine source s pos).balance = s.balance := by
  rw [breakLine]
  split <;> split <;> rfl

theorem balance_openRule (s : SplitterState) (pos : Nat) :
    (openRule source s pos).2.balance = s.balance.perform .openOuter := by
  rw [openRule]
  split
  · rfl
  · exact (balance_emitPending source _).trans (balance_settle source _ pos)

theorem balance_closeRule (s : SplitterState) (pos : Nat) :
    (closeRule source options s pos).2.balance = s.balance.perform .closeOuter := by
  rw [closeRule]
  simp only
  split <;> rfl

theorem balance_perform (action : Action) (s : SplitterState) (pos : Nat) :
    (perform source options action s pos).2.balance = s.balance.perform action := by
  cases action with
  | openOuter => exact balance_openRule source s pos
  | closeOuter => exact balance_closeRule source options s pos
  | endDeclaration => exact balance_declare source _ _ _
  | extendSelector => exact balance_settle source s pos
  | breakLine => exact balance_breakLine source s pos
  | emitPending => exact balance_emitPending source s
  | _ => rfl

variable {s : SplitterState} {m : Mark} {pos : Nat}

theorem react_of_some {action : Action} (h : s.balance.mode.action? m = some action) :
    react source options m s pos = perform source options action s pos := by
  rw [react, SplitterState.mode_eq, h]

theorem react_of_none (h : s.balance.mode.action? m = none) :
    react source options m s pos = (none, s) := by
  rw [react, SplitterState.mode_eq, h]

/-- A splitter counts open constructs as the scan does. -/
theorem balance_readChar (c : Char) (s : SplitterState) :
    (readChar source options c s).2.balance = s.balance.read c := by
  rw [readChar]
  split
  · -- a hint mark has no effect on the splitter and is a plain character for the scan
    rename_i hmark
    subst hmark
    obtain ⟨_, _, _, _, quote, _⟩ := s
    cases quote <;> rfl
  · change (react source options (Mark.of c) { s with cursor := s.cursor + 1 } s.cursor).2.balance =
      ({ s with cursor := s.cursor + 1 } : SplitterState).balance.read c
    -- the cursor plays no part in what is open
    generalize ({ s with cursor := s.cursor + 1 } : SplitterState) = next
    rw [Balance.read_eq_perform]
    cases haction : next.balance.mode.action? (Mark.of c) with
    | none =>
      rw [react_of_none source options haction]
      rfl
    | some action =>
      rw [react_of_some source options haction]
      exact balance_perform source options action _ _

end Splitter

end SheetLex
