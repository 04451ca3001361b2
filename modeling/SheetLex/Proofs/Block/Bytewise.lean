import SheetLex.Proofs.Layout.Bytewise
import SheetLex.Proofs.Block.Bounds

/-!
# Splitting byte by byte

A `ByteSplitter` divides a source as a splitter does, but reads it byte by byte and keeps its marks
as byte offsets. It is checked: it refuses to cut the source with offsets that are out of order,
out of bounds or inside a character, to look at a byte that is not there, to take one from a count
that is zero, and to go on when the pending text would begin behind the selector.

With its marks in order, a splitter and the byte splitter at the same point do the same
(`perform?_eq`, `readByte?_of_ascii`, `conclude?_eq`): the marks of the latter are the offsets of
the marks of the former, `SplitterState.inBytes`, and nothing is refused. A byte of a character
that is not ASCII is passed over (`readByte?_of_le`).
-/

set_option autoImplicit false

namespace SheetLex

/-! ## The classes of bytes -/

/-- The class of a byte. -/
def Mark.ofByte (byte : UInt8) : Mark :=
  if byte = '"'.toUInt8 then .quote .double
  else if byte = '\''.toUInt8 then .quote .single
  else if byte = '('.toUInt8 then .leftParen
  else if byte = ')'.toUInt8 then .rightParen
  else if byte = '{'.toUInt8 then .leftBrace
  else if byte = '}'.toUInt8 then .rightBrace
  else if byte = ';'.toUInt8 then .semicolon
  else if byte = ','.toUInt8 then .comma
  else if byte = '\n'.toUInt8 then .lineFeed
  else .plain

/-- Take one from a count that is not zero. -/
def decrement? : Nat → Option Nat
  | 0 => none
  | n + 1 => some n

theorem decrement?_of_pos {n : Nat} (h : 0 < n) : decrement? n = some (n - 1) := by
  obtain ⟨m, rfl⟩ := Nat.exists_eq_succ_of_ne_zero (Nat.ne_of_gt h)
  rfl

section Classes

variable {c : Char} {byte : UInt8}

/-- An ASCII character has the class of its byte. -/
theorem Mark.ofByte_toUInt8 (h : c.toNat < 128) : Mark.ofByte c.toUInt8 = Mark.of c := by
  have hsame {d : Char} (hd : d.toNat < 128) : (c.toUInt8 = d.toUInt8) = (c = d) :=
    propext (Text.toUInt8_eq_iff h hd)
  simp (disch := decide) only [Mark.ofByte, Mark.of, hsame]

theorem ne_toUInt8_of_le (h : 128 ≤ byte.toNat) {d : Char} (hd : d.toNat < 128) :
    byte ≠ d.toUInt8 := by
  rintro rfl
  have hcode : d.toUInt8.toNat = d.toNat % 256 := rfl
  omega

/-- The bytes of other characters have no class of their own. -/
theorem Mark.ofByte_of_le (h : 128 ≤ byte.toNat) : Mark.ofByte byte = .plain := by
  have hother {d : Char} (hd : d.toNat < 128) : (byte = d.toUInt8) = False :=
    eq_false (ne_toUInt8_of_le h hd)
  simp (disch := decide) only [Mark.ofByte, hother, if_false]

theorem Mark.of_of_le (h : 128 ≤ c.toNat) : Mark.of c = .plain := by
  have hother {d : Char} (hd : d.toNat < 128) : (c = d) = False :=
    eq_false fun heq => absurd (heq ▸ hd) (Nat.not_lt_of_le h)
  simp (disch := decide) only [Mark.of, hother, if_false]

theorem LexicalMode.action?_plain (m : LexicalMode) : m.action? .plain = none := by
  obtain ⟨quote, inParens, nesting⟩ := m
  cases quote <;> cases inParens <;> cases nesting <;> rfl

end Classes

/-! ## The effects of a byte -/

namespace ByteSplitter

section Effects

variable (source : Text) (options : SplitOptions)

/-- Hand out the bytes between two offsets as a declaration, unless they are blank. -/
def declare? (s : SplitterState) (first last : Nat) : Option (Option Block × SplitterState) := do
  let condensed ← condenseByBytes? (← Text.byteSlice? source first last)
  if condensed.isEmpty then some (none, s)
  else
    let s' := s.noteLine condensed.line
    some (some ⟨.complete, s'.line, condensed.text, none⟩, s')

/-- Hand out what lies before the selector as a declaration. The pending text may not begin behind
the selector. -/
def emitPending? (s : SplitterState) : Option (Option Block × SplitterState) :=
  if s.selector < s.pending then none
  else declare? source { s with pending := s.selector } s.pending s.selector

/-- Take the tentative start of the selector if bytes that are not blank lie between it and the
offset given. -/
def settle? (s : SplitterState) (pos : Nat) : Option SplitterState :=
  match s.tentative with
  | some t => do
    let blank ← isBlankByBytes? (← Text.byteSlice? source t pos)
    some (if blank then s else { s with selector := t })
  | none => some s

/-- Whether the byte before an offset is that of a `#`. -/
def behindSharp? (pos : Nat) : Option Bool :=
  if 0 < pos then (Text.encode source)[pos - 1]?.map (· == '#'.toUInt8) else some false

/-- A brace opens an outermost block, or an interpolation if it stands behind a `#`. -/
def openRule? (s : SplitterState) (pos : Nat) : Option (Option Block × SplitterState) := do
  let s := { s with depth := s.depth + 1 }
  if ← behindSharp? source pos then some (none, { s with interpolation := true })
  else
    let (block, s) ← emitPending? source (← settle? source { s with brace := pos } pos)
    some (block, { s with tentative := none })

/-- A brace closes an outermost block, or an interpolation. -/
def closeRule? (s : SplitterState) (pos : Nat) : Option (Option Block × SplitterState) := do
  let s := { s with depth := ← decrement? s.depth }
  if s.interpolation then some (none, { s with interpolation := false })
  else
    let selector ← condenseByBytes? (← Text.byteSlice? source s.selector s.brace)
    let s := s.noteLine selector.line
    let body ← Text.byteSlice? source (s.brace + 1) pos
    let body := if options.rawBodies then body else Text.trim body
    some (some ⟨.complete, s.line, selector.text, some body⟩,
      s.beginAfter pos (Text.byteLength source))

/-- A semicolon ends a declaration. -/
def endDeclaration? (s : SplitterState) (pos : Nat) : Option (Option Block × SplitterState) := do
  let (block, s) ← declare? source { s with selector := pos } s.pending pos
  some (block, s.beginAfter pos (Text.byteLength source))

/-- A comma: what stands before it belongs to the selector that goes on behind it. -/
def extendSelector? (s : SplitterState) (pos : Nat) : Option SplitterState := do
  some { ← settle? source s pos with tentative := none, boundary := pos + 1 }

/-- A line feed: the selector may start behind it, provided the bytes before it, from the last
tentative start or boundary on, are not blank. -/
def breakLine? (s : SplitterState) (pos : Nat) : Option SplitterState :=
  match s.tentative with
  | some t => do
    let blank ← isBlankByBytes? (← Text.byteSlice? source t pos)
    some (if blank then s else { s with selector := t, tentative := some (pos + 1) })
  | none => do
    let blank ← isBlankByBytes? (← Text.byteSlice? source s.boundary pos)
    some (if blank then s else { s with tentative := some (pos + 1) })

/-- The effect of an action at the offset given. -/
def perform? (action : Action) (s : SplitterState) (pos : Nat) :
    Option (Option Block × SplitterState) :=
  match action with
  | .beginString q => some (none, { s with quote := some q })
  | .endString => some (none, { s with quote := none })
  | .beginParens =>
    some (none, { s with parens := s.parens + 1, tentative := none, boundary := pos + 1 })
  | .endParens => do some (none, { s with parens := ← decrement? s.parens })
  | .openInner => some (none, { s with depth := s.depth + 1 })
  | .closeInner => do some (none, { s with depth := ← decrement? s.depth })
  | .extendSelector => do some (none, ← extendSelector? source s pos)
  | .breakLine => do some (none, ← breakLine? source s pos)
  | .openOuter => openRule? source s pos
  | .closeOuter => closeRule? source options s pos
  | .endDeclaration => endDeclaration? source s pos
  | .emitPending => emitPending? source s

/-- The effect of a byte of the class given at the offset given. -/
def react? (k : Mark) (s : SplitterState) (pos : Nat) : Option (Option Block × SplitterState) :=
  match s.mode.action? k with
  | some action => perform? source options action s pos
  | none => some (none, s)

/-! ## Reading on -/

/-- Read the byte at the cursor. A NUL has no effect, whatever the mode. -/
def readByte? (byte : UInt8) (s : SplitterState) : Option (Option Block × SplitterState) :=
  let next := { s with cursor := s.cursor + 1 }
  if byte = hintMark.toUInt8 then some (none, next)
  else react? source options (.ofByte byte) next s.cursor

/-- Close everything that is open at the end of the source. -/
def closeAll? (s : SplitterState) : Option (Option Block × SplitterState) :=
  if 0 < s.depth then
    react? source options .rightBrace { s with parens := 0, quote := none, depth := 1 }
      (Text.byteLength source)
  else some (none, { s with parens := 0, quote := none })

/-- Close everything that is open at the end of the source, and hand out the block that
results. -/
def recover? (s : SplitterState) : Option (Option Block × SplitterState) := do
  match ← closeAll? source options s with
  | (some block, s) => some (some block, s)
  | (none, s) =>
    react? source options .sourceEnd { s with selector := Text.byteLength source }
      (Text.byteLength source)

/-- Hand out what is pending at the end of the source. -/
def flush? (s : SplitterState) : Option (Option Block × SplitterState) :=
  if s.selector < Text.byteLength source then
    react? source options .sourceEnd { s with selector := Text.byteLength source }
      (Text.byteLength source)
  else some (none, s)

/-- The end of the source: report an open construct, hand out what is pending, or end the pass
and start over. -/
def conclude? (s : SplitterState) : Option (Block × SplitterState) :=
  match s.openConstruct? with
  | some cause => do
    let (block, s') ← recover? source options s
    some ({ block.getD ⟨.complete, s'.line, [], none⟩ with status := .recovered cause }, s')
  | none => do
    match ← flush? source options s with
    | (some block, s') => some (block, s')
    | (none, s') => some (Block.finish s'.line, {})

end Effects

end ByteSplitter

/-! ## The same point in both -/

/-- The same state with its positions as byte offsets of the source. -/
def SplitterState.inBytes (source : Text) (s : SplitterState) : SplitterState :=
  { s with
    cursor := Text.offset source s.cursor
    pending := Text.offset source s.pending
    selector := Text.offset source s.selector
    boundary := Text.offset source s.boundary
    tentative := s.tentative.map (Text.offset source)
    brace := Text.offset source s.brace }

theorem SplitterState.inBytes_start (source : Text) : inBytes source {} = {} := by
  simp [inBytes, Text.offset_zero]

/-- The same answer with the positions of the state as byte offsets. -/
def answerInBytes {α : Type} (source : Text) (answer : α × SplitterState) : α × SplitterState :=
  (answer.1, answer.2.inBytes source)

namespace ByteSplitter

open Splitter

section Refinement

variable {source : Text} {options : SplitOptions} {s : SplitterState} {pos : Nat} {c : Char}

theorem declare?_eq {first last : Nat} (h : first ≤ last) (hlast : last ≤ source.length) :
    declare? source (s.inBytes source) (Text.offset source first) (Text.offset source last) =
      some (answerInBytes source (declare source s first last)) := by
  rw [declare?, Text.byteSlice?_offset h hlast, declare]
  simp only [Option.bind_eq_bind, Option.bind_some, condenseByBytes?_eq]
  split <;> rfl

theorem emitPending?_eq (h : s.pending ≤ s.selector) (hselector : s.selector ≤ source.length) :
    emitPending? source (s.inBytes source) =
      some (answerInBytes source (emitPending source s)) := by
  have horder : ¬ (s.inBytes source).selector < (s.inBytes source).pending :=
    Nat.not_lt_of_le (Text.offset_mono source h)
  rw [emitPending?, if_neg horder, emitPending_of_le h]
  exact declare?_eq (s := { s with pending := s.selector }) h hselector

theorem settle?_eq (htentative : ∀ t, s.tentative = some t → t ≤ pos) (hpos : pos ≤ source.length) :
    settle? source (s.inBytes source) (Text.offset source pos) =
      some ((settle source s pos).inBytes source) := by
  obtain ⟨_, _, _, _, _, _, _, _, _, tentative, _⟩ := s
  cases tentative with
  | none => rfl
  | some t =>
    rw [settle_of_some rfl]
    change (Text.byteSlice? source (Text.offset source t) _).bind _ = _
    rw [Text.byteSlice?_offset (htentative t rfl) hpos]
    simp only [Option.bind_eq_bind, Option.bind_some, isBlankByBytes?_eq]
    split <;> rfl

theorem behindSharp?_eq (hpos : pos ≤ source.length) :
    behindSharp? source (Text.offset source pos) =
      some (decide (0 < pos ∧ source[pos - 1]? = some '#')) := by
  have hpositive := Text.offset_lt_iff (t := source) (m := 0) hpos
  rw [Text.offset_zero] at hpositive
  rw [behindSharp?]
  rcases Nat.eq_zero_or_pos pos with rfl | hlt
  · rw [Text.offset_zero]
    rfl
  · -- the byte before the offset is there to be looked at
    have hsharp := Text.getElem?_encode_pred_iff hlt hpos (d := '#') (by decide)
    have hbound : Text.offset source pos - 1 < (Text.encode source).length := by
      have hle := Text.offset_le source pos
      have hlt' := hpositive.2 hlt
      rw [Text.length_encode]
      omega
    rw [List.getElem?_eq_getElem hbound, Option.some_inj] at hsharp
    rw [if_pos (hpositive.2 hlt), List.getElem?_eq_getElem hbound, Option.map_some, Option.some_inj,
      Bool.eq_iff_iff, beq_iff_eq, decide_eq_true_eq, hsharp, and_iff_right hlt]

/-- The next position lies one byte further on, or there is none but the end. -/
def EndsByte (source : Text) (pos : Nat) : Prop :=
  min (Text.offset source pos + 1) (Text.byteLength source) =
    Text.offset source (min (pos + 1) source.length)

theorem endsByte_of_ascii (hc : source[pos]? = some c) (hascii : c.toNat < 128) :
    EndsByte source pos := by
  obtain ⟨hpos, -⟩ := List.getElem?_eq_some_iff.1 hc
  rw [EndsByte, Nat.min_eq_left hpos, ← Text.offset_succ_of_ascii hc hascii,
    Nat.min_eq_left (Text.offset_le source _)]

theorem endsByte_length (source : Text) : EndsByte source source.length := by
  rw [EndsByte, Nat.min_eq_right (Nat.le_succ _), Text.offset_length,
    Nat.min_eq_right (Nat.le_succ _)]

theorem beginAfter_inBytes (hnext : EndsByte source pos) :
    (s.inBytes source).beginAfter (Text.offset source pos) (Text.byteLength source) =
      (s.beginAfter pos source.length).inBytes source := by
  rw [EndsByte] at hnext
  rw [SplitterState.beginAfter, SplitterState.beginAfter, hnext]
  rfl

theorem openRule?_eq (h : InOrder source pos s) (hpos : pos < source.length) :
    openRule? source (s.inBytes source) (Text.offset source pos) =
      some (answerInBytes source (openRule source s pos)) := by
  have hle := Nat.le_of_lt hpos
  rw [openRule?, behindSharp?_eq hle, openRule]
  simp only [Option.bind_eq_bind, Option.bind_some, decide_eq_true_eq]
  split
  · rfl
  · -- with the selector settled, nothing handed out lies behind it
    obtain ⟨first, hsettle, hfirst⟩ :=
      exists_settle (s := { s with depth := s.depth + 1, brace := pos }) source h.selectorStart
        (h.tentativeStart hpos)
    have hsettle' := settle?_eq (s := { s with depth := s.depth + 1, brace := pos })
      (fun t ht => (h.tentative_mem t ht).2) hle
    rw [hsettle] at hsettle' ⊢
    have hemit := emitPending?_eq
      (s := { s with depth := s.depth + 1, brace := pos, selector := first }) hfirst.1
      (Nat.le_trans hfirst.2 hle)
    change (settle? source (SplitterState.inBytes source
      { s with depth := s.depth + 1, brace := pos }) (Text.offset source pos)).bind _ = _
    rw [hsettle', Option.bind_some, hemit]
    rfl

theorem closeRule?_eq (options : SplitOptions) (h : InOrder source pos s) (hdepth : 0 < s.depth)
    (hnext : EndsByte source pos) :
    closeRule? source options (s.inBytes source) (Text.offset source pos) =
      some (answerInBytes source (closeRule source options s pos)) := by
  have hdecrement : decrement? (s.inBytes source).depth = some (s.depth - 1) :=
    decrement?_of_pos hdepth
  rw [closeRule?, hdecrement, closeRule]
  simp only [Option.bind_eq_bind, Option.bind_some]
  cases hskip : s.interpolation with
  | true =>
    have hskip' : (s.inBytes source).interpolation = true := hskip
    simp only [hskip', if_true]
    rfl
  | false =>
    have hskip' : (s.inBytes source).interpolation = false := hskip
    obtain ⟨hselector, hbrace, hmark⟩ := h.brace_mem hdepth hskip
    have hhead : Text.byteSlice? source (s.inBytes source).selector (s.inBytes source).brace =
        some (Text.slice source s.selector s.brace) :=
      Text.byteSlice?_offset hselector (Nat.le_trans (Nat.le_of_lt hbrace) h.bound_le)
    have hbody : Text.byteSlice? source ((s.inBytes source).brace + 1) (Text.offset source pos) =
        some (Text.slice source (s.brace + 1) pos) := by
      have hstart := Text.offset_succ_of_ascii hmark (by decide)
      change Text.byteSlice? source (Text.offset source s.brace + 1) _ = _
      rw [← hstart]
      exact Text.byteSlice?_offset hbrace h.bound_le
    -- the selector ends at the brace, and the body begins one byte behind it
    simp only [hskip', hhead, Option.bind_some, condenseByBytes?_eq, Bool.false_eq_true, if_false]
    change (Text.byteSlice? source ((s.inBytes source).brace + 1) _).bind _ = _
    rw [hbody]
    change _ = some (some _, SplitterState.inBytes source (SplitterState.beginAfter _ _ _))
    rw [← beginAfter_inBytes hnext]
    rfl

theorem endDeclaration?_eq (h : InOrder source pos s) (hnext : EndsByte source pos) :
    endDeclaration? source (s.inBytes source) (Text.offset source pos) =
      some (answerInBytes source (endDeclaration source s pos)) := by
  have hdeclare := declare?_eq (s := { s with selector := pos })
    (Nat.le_trans h.pending_le h.selector_le) h.bound_le
  rw [endDeclaration?]
  change (declare? source (SplitterState.inBytes source { s with selector := pos })
    (Text.offset source s.pending) (Text.offset source pos)).bind _ = _
  rw [hdeclare, Option.bind_some, endDeclaration]
  change some (_, SplitterState.beginAfter (SplitterState.inBytes source _) _ _) = _
  rw [beginAfter_inBytes hnext]
  rfl

theorem extendSelector?_eq (h : InOrder source pos s) (hpos : pos < source.length)
    (hnext : Text.offset source (pos + 1) = Text.offset source pos + 1) :
    extendSelector? source (s.inBytes source) (Text.offset source pos) =
      some ((extendSelector source s pos).inBytes source) := by
  rw [extendSelector?, settle?_eq (fun t ht => (h.tentative_mem t ht).2) (Nat.le_of_lt hpos),
    extendSelector]
  simp only [Option.bind_eq_bind, Option.bind_some, ← hnext]
  rfl

theorem breakLine?_eq (h : InOrder source pos s) (hpos : pos < source.length)
    (hnext : Text.offset source (pos + 1) = Text.offset source pos + 1) :
    breakLine? source (s.inBytes source) (Text.offset source pos) =
      some ((breakLine source s pos).inBytes source) := by
  obtain ⟨_, _, _, _, _, _, _, _, _, tentative, _⟩ := s
  cases tentative with
  | none =>
    change (Text.byteSlice? source (Text.offset source _) _).bind _ = _
    rw [Text.byteSlice?_offset h.boundary_le (Nat.le_of_lt hpos), breakLine]
    simp only [Option.bind_eq_bind, Option.bind_some, isBlankByBytes?_eq, ← hnext]
    split <;> rfl
  | some t =>
    change (Text.byteSlice? source (Text.offset source t) _).bind _ = _
    rw [Text.byteSlice?_offset (h.tentative_mem t rfl).2 (Nat.le_of_lt hpos), breakLine]
    simp only [Option.bind_eq_bind, Option.bind_some, isBlankByBytes?_eq, ← hnext]
    split <;> rfl

/-! ### The effect of a character -/

/-- At a character that has an effect, both do the same, and nothing is refused. -/
theorem perform?_eq (h : InOrder source pos s) (hc : source[pos]? = some c) (hascii : c.toNat < 128)
    {action : Action} (haction : action.Arises s.mode (Mark.of c)) :
    perform? source options action (s.inBytes source) (Text.offset source pos) =
      some (answerInBytes source (perform source options action s pos)) := by
  obtain ⟨hpos, -⟩ := List.getElem?_eq_some_iff.1 hc
  have hnext := Text.offset_succ_of_ascii hc hascii
  cases action with
  | beginString q => rfl
  | endString => rfl
  | openInner => rfl
  | beginParens =>
    rw [perform?, ← hnext]
    rfl
  | endParens =>
    have hparens : 0 < s.parens := of_decide_eq_true haction
    change (decrement? s.parens).bind _ = _
    rw [decrement?_of_pos hparens]
    rfl
  | closeInner =>
    have hdepth : 1 < s.depth := Nesting.ofDepth_eq_inner_iff.1 haction
    change (decrement? s.depth).bind _ = _
    rw [decrement?_of_pos (Nat.zero_lt_of_lt hdepth)]
    rfl
  | extendSelector =>
    rw [perform?, extendSelector?_eq h hpos hnext]
    rfl
  | breakLine =>
    rw [perform?, breakLine?_eq h hpos hnext]
    rfl
  | openOuter => exact openRule?_eq h hpos
  | closeOuter =>
    have hdepth : s.depth = 1 := Nesting.ofDepth_eq_outer_iff.1 haction.1
    exact closeRule?_eq options h (hdepth ▸ Nat.one_pos) (endsByte_of_ascii hc hascii)
  | endDeclaration => exact endDeclaration?_eq h (endsByte_of_ascii hc hascii)
  | emitPending => exact absurd haction (mark_of_ne_sourceEnd c)

/-- An ASCII character is read as its byte is. -/
theorem readByte?_of_ascii (h : InOrder source s.cursor s) (hc : source[s.cursor]? = some c)
    (hascii : c.toNat < 128) :
    readByte? source options c.toUInt8 (s.inBytes source) =
      some (answerInBytes source (readChar source options c s)) := by
  have hread : InOrder source s.cursor { s with cursor := s.cursor + 1 } := { h with }
  have hnext : { s.inBytes source with cursor := (s.inBytes source).cursor + 1 } =
      SplitterState.inBytes source { s with cursor := s.cursor + 1 } := by
    rw [SplitterState.inBytes, SplitterState.inBytes, Text.offset_succ_of_ascii hc hascii]
  rw [readByte?, readChar]
  have hmark := Text.toUInt8_eq_iff hascii (d := hintMark) (by decide)
  simp only [hnext, Mark.ofByte_toUInt8 hascii, hmark]
  split
  · rfl
  · -- the modes are the same, and so is the action
    rw [react?, react]
    change (match s.mode.action? (Mark.of c) with | some action => _ | none => _) =
      some (answerInBytes source
        (match s.mode.action? (Mark.of c) with | some action => _ | none => _))
    cases haction : s.mode.action? (Mark.of c) with
    | none => rfl
    | some action => exact perform?_eq hread hc hascii (LexicalMode.arises_of_action? haction)

/-- A byte of a character that is not ASCII is passed over. -/
theorem readByte?_of_le {byte : UInt8} (h : 128 ≤ byte.toNat) :
    readByte? source options byte s = some (none, { s with cursor := s.cursor + 1 }) := by
  rw [readByte?, if_neg (ne_toUInt8_of_le h (by decide)), Mark.ofByte_of_le h, react?,
    LexicalMode.action?_plain]

theorem readChar_of_le (h : 128 ≤ c.toNat) :
    readChar source options c s = (none, { s with cursor := s.cursor + 1 }) := by
  have hmark : c ≠ hintMark := by
    rintro rfl
    exact absurd h (by decide)
  rw [readChar, if_neg hmark, Mark.of_of_le h, react, LexicalMode.action?_plain]

/-! ### The end of the source -/

theorem react?_sourceEnd (options : SplitOptions) (h : InOrder source source.length s) :
    react? source options .sourceEnd (s.inBytes source) (Text.byteLength source) =
      some (answerInBytes source (react source options .sourceEnd s source.length)) := by
  have hmode : (s.inBytes source).mode = s.mode := rfl
  rw [react?, react, hmode]
  rcases LexicalMode.action?_sourceEnd s.mode with hflush | hnone
  · rw [hflush]
    exact emitPending?_eq h.pending_le h.selector_le
  · rw [hnone]
    rfl

/-- With the selector moved to the end, both hand out what is pending. -/
theorem react?_sourceEnd_selectorEnd (h : InOrder source source.length s) (hdepth : s.depth = 0) :
    react? source options .sourceEnd
        { s.inBytes source with selector := Text.byteLength source } (Text.byteLength source) =
      some (answerInBytes source
        (react source options .sourceEnd { s with selector := source.length } source.length)) := by
  have hmoved := react?_sourceEnd options (h.selectorEnd hdepth)
  rwa [SplitterState.inBytes, Text.offset_length] at hmoved

theorem closeAll?_eq (h : InOrder source source.length s) :
    closeAll? source options (s.inBytes source) =
      some (answerInBytes source (closeAll source options s)) := by
  have hdepth : (s.inBytes source).depth = s.depth := rfl
  rw [closeAll?, closeAll, hdepth]
  split
  · rename_i hopen
    have hclose := closeRule?_eq options (h.depthOne hopen) Nat.one_pos (endsByte_length source)
    rwa [Text.offset_length] at hclose
  · rfl

theorem recover?_eq (h : InOrder source source.length s) :
    recover? source options (s.inBytes source) =
      some (answerInBytes source (recover source options s)) := by
  obtain ⟨hclosed, hdepth⟩ := h.closeAll options
  rw [recover?, closeAll?_eq h, recover_eq_closeAll]
  generalize closeAll source options s = closed at hclosed hdepth
  obtain ⟨block, s'⟩ := closed
  cases block with
  | some b => rfl
  | none => exact react?_sourceEnd_selectorEnd hclosed hdepth

theorem flush?_eq (h : InOrder source source.length s) (hdepth : s.depth = 0) :
    flush? source options (s.inBytes source) =
      some (answerInBytes source (flush source options s)) := by
  have hselector : (s.inBytes source).selector < Text.byteLength source ↔
      s.selector < source.length := by
    rw [← Text.offset_length]
    exact Text.offset_lt_iff (Nat.le_refl _)
  rw [flush?, flush]
  simp only [hselector]
  split
  · exact react?_sourceEnd_selectorEnd h hdepth
  · rfl

theorem conclude?_eq (options : SplitOptions) (h : InOrder source s.cursor s)
    (hend : s.cursor = source.length) :
    conclude? source options (s.inBytes source) =
      some (answerInBytes source (conclude source options s)) := by
  rw [hend] at h
  have hopen : (s.inBytes source).openConstruct? = s.openConstruct? := rfl
  rw [conclude?, hopen]
  cases hcause : s.openConstruct? with
  | some cause =>
    rw [conclude, hcause]
    simp only [recover?_eq h, Option.bind_eq_bind, Option.bind_some]
    rfl
  | none =>
    rw [conclude_of_none hcause]
    simp only [flush?_eq h (openConstruct?_eq_none_depth hcause), Option.bind_eq_bind,
      Option.bind_some]
    generalize flush source options s = answer
    obtain ⟨block, s'⟩ := answer
    cases block with
    | some b => rfl
    | none =>
      change some (Block.finish s'.line, _) = some (Block.finish s'.line, _)
      rw [SplitterState.inBytes_start]

end Refinement

end ByteSplitter

end SheetLex
