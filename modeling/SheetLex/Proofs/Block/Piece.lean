import SheetLex.Proofs.Block.Balance
import SheetLex.Proofs.Layout.Ink

/-!
# Pieces of a source

A source is a sequence of pieces: declarations, each with its semicolon or without one, and rules.
`Piece.text` is the text of one, and `report` reads the blocks off a list of them.

Outside rules the text of the piece being read has three parts (`Pending`): a `lead`, which is a
declaration of its own if a rule opens now, the `held` part of the selector, and the `run` behind
the last comma, opening parenthesis or counted line feed. Reading a character moves the parts but
not their text, and the lead is always cut off behind a line feed (`Pending.Sound`).
-/

set_option autoImplicit false

namespace SheetLex

/-! ## Characters behind marks -/

namespace Mark

/-- The character of a mark; plain characters and the end of the source have none. -/
def char? : Mark → Option Char
  | .quote .double => some '"'
  | .quote .single => some '\''
  | .leftParen => some '('
  | .rightParen => some ')'
  | .leftBrace => some '{'
  | .rightBrace => some '}'
  | .semicolon => some ';'
  | .comma => some ','
  | .lineFeed => some '\n'
  | .sourceEnd | .plain => none

theorem char?_of (c : Char) : (of c).char? = none ∨ (of c).char? = some c := by
  unfold of
  repeat' split
  all_goals first | exact .inl rfl | (subst_vars; exact .inr rfl)

theorem eq_of_of_eq {c d : Char} {m : Mark} (h : of c = m) (hd : m.char? = some d) : c = d := by
  subst h
  rcases char?_of c with hc | hc
  · rw [hc] at hd
    cases hd
  · rw [hc] at hd
    exact Option.some.inj hd

/-- The characters that have a mark of their own. -/
def characters : List Char := ['"', '\'', '(', ')', '{', '}', ';', ',', '\n']

theorem mem_characters {c : Char} (h : of c ≠ .plain) : c ∈ characters := by
  by_contra hmem
  simp only [characters, List.mem_cons, List.not_mem_nil, or_false, not_or] at hmem
  apply h
  simp [of, hmem]

/-- A character is plain if it passes a test that no character with a mark passes. -/
theorem of_eq_plain {p : Char → Bool} {c : Char} (hc : p c = true)
    (hmarks : characters.all (fun d => !p d) = true) : of c = .plain := by
  by_contra h
  have hnot := List.all_eq_true.1 hmarks c (mem_characters h)
  rw [hc] at hnot
  cases hnot

/-- A character that opens a construct is not blank. -/
theorem inked_of_opens {c : Char}
    (h : (∃ q, of c = .quote q) ∨ of c = .leftParen ∨ of c = .leftBrace) :
    c.isDigit = false ∧ isBlankChar c = false := by
  rcases h with ⟨q, h⟩ | h | h
  · cases q with
    | single =>
      obtain rfl := eq_of_of_eq h rfl
      exact ⟨rfl, rfl⟩
    | double =>
      obtain rfl := eq_of_of_eq h rfl
      exact ⟨rfl, rfl⟩
  · obtain rfl := eq_of_of_eq h rfl
    exact ⟨rfl, rfl⟩
  · obtain rfl := eq_of_of_eq h rfl
    exact ⟨rfl, rfl⟩

end Mark

/-! ## Pieces -/

/-- A piece of a source: a declaration, or a rule with its body. -/
structure Piece where
  /-- The text of a declaration, or what stands before the brace of a rule. -/
  head : Text
  /-- The text behind the brace of a rule. -/
  body : Option Text := none
  /-- Whether the closing character is there: a semicolon, or the brace that ends a rule. -/
  closed : Bool := false
  /-- The construct that the end of the source left open in the piece. -/
  cause : Option OpenConstruct := none
deriving DecidableEq, Repr

/-- The text of a body as a block gives it. -/
def SplitOptions.bodyText (options : SplitOptions) (body : Text) : Text :=
  if options.rawBodies then body else Text.trim body

namespace Piece

/-- The characters of the piece. -/
def text (p : Piece) : Text :=
  match p.body with
  | none => p.head ++ if p.closed then [';'] else []
  | some body => p.head ++ '{' :: (body ++ if p.closed then ['}'] else [])

/-- Whether the piece yields no block. -/
def isSilent (p : Piece) : Bool := p.body.isNone && isBlank p.head

/-- The line number that the piece's own text gives, its body apart. -/
def hint? (p : Piece) : Option Nat := (condense p.head).line

/-- The block that the piece yields behind a block with the line number given. -/
def block (p : Piece) (options : SplitOptions) (line : Nat) : Block where
  status := match p.cause with
    | none => .complete
    | some cause => .recovered cause
  line := p.hint?.getD line
  selector := (condense p.head).text
  body := p.body.map options.bodyText

/-- What the piece yields behind a block with the line number given: a block, if any, and the
line number from there on. -/
def yield (p : Piece) (options : SplitOptions) (line : Nat) : Option Block × Nat :=
  if p.isSilent then (none, line) else (some (p.block options line), p.hint?.getD line)

theorem yield_of_isSilent {p : Piece} (h : p.isSilent = true) (options : SplitOptions)
    (line : Nat) : p.yield options line = (none, line) := if_pos h

theorem yield_of_not_isSilent {p : Piece} (h : p.isSilent = false) (options : SplitOptions)
    (line : Nat) : p.yield options line = (some (p.block options line), p.hint?.getD line) :=
  if_neg (by rw [h]; decide)

theorem isEnd_block (p : Piece) (options : SplitOptions) (line : Nat) :
    (p.block options line).isEnd = false := by
  rw [block, Block.isEnd]
  cases p.cause <;> rfl

end Piece

/-- The blocks that pieces yield, behind a block with the line number given. -/
def report (options : SplitOptions) : Nat → List Piece → List Block
  | _, [] => []
  | line, p :: ps => (p.yield options line).1.toList ++ report options (p.yield options line).2 ps

/-- The line number behind pieces, behind a block with the line number given. -/
def lineBehind : Nat → List Piece → Nat
  | line, [] => line
  | line, p :: ps => lineBehind (if p.isSilent then line else p.hint?.getD line) ps

theorem report_cons (options : SplitOptions) (line : Nat) (p : Piece) (ps : List Piece) :
    report options line (p :: ps) =
      (p.yield options line).1.toList ++ report options (p.yield options line).2 ps := rfl

theorem lineBehind_cons (options : SplitOptions) (line : Nat) (p : Piece) (ps : List Piece) :
    lineBehind line (p :: ps) = lineBehind (p.yield options line).2 ps := by
  rw [lineBehind, Piece.yield]
  split <;> rfl

theorem report_append (options : SplitOptions) (line : Nat) (ps qs : List Piece) :
    report options line (ps ++ qs) =
      report options line ps ++ report options (lineBehind line ps) qs := by
  induction ps generalizing line with
  | nil => rfl
  | cons p ps ih =>
    rw [List.cons_append, report_cons, report_cons, ih, lineBehind_cons options,
      List.append_assoc]

/-- Every block is that of a piece. -/
theorem exists_piece_of_mem_report {options : SplitOptions} {line : Nat} {ps : List Piece}
    {b : Block} (h : b ∈ report options line ps) :
    ∃ p ∈ ps, p.isSilent = false ∧ ∃ line', b = p.block options line' := by
  induction ps generalizing line with
  | nil => cases h
  | cons p ps ih =>
    rw [report_cons, List.mem_append, Option.mem_toList, Piece.yield] at h
    rcases h with h | h
    · -- the block is that of the first piece, which therefore is not silent
      split at h
      · cases h
      · rename_i hsilent
        exact ⟨p, List.mem_cons_self, Bool.eq_false_iff.2 hsilent, line, (Option.some.inj h).symm⟩
    · obtain ⟨q, hq, hblock⟩ := ih h
      exact ⟨q, List.mem_cons_of_mem p hq, hblock⟩

/-- What is collected over the blocks can be collected over the pieces, if silent pieces add
nothing. -/
theorem flatMap_report {α : Type} {options : SplitOptions} {f : Block → List α}
    {g : Piece → List α} (line : Nat) {ps : List Piece}
    (hsilent : ∀ p ∈ ps, p.isSilent = true → g p = [])
    (hblock : ∀ p ∈ ps, ∀ line, f (p.block options line) = g p) :
    (report options line ps).flatMap f = ps.flatMap g := by
  induction ps generalizing line with
  | nil => rfl
  | cons p ps ih =>
    -- the line number differs behind each piece, but neither side depends on it
    have hrest : (report options (p.yield options line).2 ps).flatMap f = ps.flatMap g := by
      apply ih
      · intro q hq
        exact hsilent q (List.mem_cons_of_mem p hq)
      · intro q hq
        exact hblock q (List.mem_cons_of_mem p hq)
    rw [report_cons, List.flatMap_append, hrest, List.flatMap_cons]
    cases hp : p.isSilent with
    | true =>
      rw [Piece.yield_of_isSilent hp, hsilent p List.mem_cons_self hp]
      rfl
    | false =>
      rw [Piece.yield_of_not_isSilent hp, Option.toList_some, List.flatMap_singleton,
        hblock p List.mem_cons_self]

theorem length_report_le (options : SplitOptions) (line : Nat) (ps : List Piece) :
    (report options line ps).length ≤ ps.length := by
  induction ps generalizing line with
  | nil => exact Nat.le_refl 0
  | cons p ps ih =>
    have hrest := ih (p.yield options line).2
    have hfirst : (p.yield options line).1.toList.length ≤ 1 := by
      cases (p.yield options line).1 with
      | none => exact Nat.zero_le 1
      | some b => exact Nat.le_refl 1
    rw [report_cons, List.length_append, List.length_cons]
    omega

/-! ## Pending text -/

/-- The text of the piece that is being read outside rules. -/
structure Pending where
  /-- What becomes a declaration of its own if a rule opens now. -/
  lead : Text := []
  /-- The beginning of the selector. -/
  held : Text := []
  /-- What stands behind the last comma, opening parenthesis or counted line feed. -/
  run : Text := []
  /-- Whether the run may become the selector by itself: a line feed was counted before it. -/
  loose : Bool := false
deriving DecidableEq, Repr

namespace Pending

/-- The whole pending text. -/
def text (p : Pending) : Text := p.lead ++ p.held ++ p.run

/-- The selector, if a rule opens now. -/
def selector (p : Pending) : Text := p.held ++ p.run

/-- Go on with the run. -/
def add (p : Pending) (c : Char) : Pending := { p with run := p.run ++ [c] }

/-- Let a new run begin behind a character. -/
def hold (p : Pending) (c : Char) (loose : Bool) : Pending :=
  { p with held := p.held ++ p.run ++ [c], run := [], loose }

/-- Let the selector begin with the run, if it may and the run is not blank. -/
def settle (p : Pending) : Pending :=
  if p.loose && !isBlank p.run then { lead := p.lead ++ p.held, run := p.run } else p

/-- Read a line feed outside all constructs. It counts if the run is not blank. -/
def breakLine (p : Pending) (c : Char) : Pending :=
  if isBlank p.run then p.add c else p.settle.hold c true

/-- Read a character that cuts nothing. -/
def absorb (p : Pending) (b : Balance) (c : Char) : Pending :=
  if b.quote = none ∧ Mark.of c = .leftParen then p.hold c false else p.add c

@[simp] theorem text_add (p : Pending) (c : Char) : (p.add c).text = p.text ++ [c] := by
  simp [text, add]

@[simp] theorem text_hold (p : Pending) (c : Char) (loose : Bool) :
    (p.hold c loose).text = p.text ++ [c] := by
  simp [text, hold]

@[simp] theorem text_settle (p : Pending) : p.settle.text = p.text := by
  rw [settle]
  split
  · simp [text]
  · rfl

@[simp] theorem text_breakLine (p : Pending) (c : Char) :
    (p.breakLine c).text = p.text ++ [c] := by
  rw [breakLine]
  split <;> simp

@[simp] theorem text_absorb (p : Pending) (b : Balance) (c : Char) :
    (p.absorb b c).text = p.text ++ [c] := by
  rw [absorb]
  split <;> simp

theorem lead_append_selector (p : Pending) : p.lead ++ p.selector = p.text := by
  rw [text, selector, List.append_assoc]

/-- What holds of pending text at any point. The lead ends with a line feed, as does whatever
may still become part of it. -/
structure Sound (p : Pending) : Prop where
  lead_end : p.lead = [] ∨ p.lead.getLast? = some '\n'
  held_end : p.loose = true → p.held.getLast? = some '\n'
  selector_ne : p.lead ≠ [] → p.selector ≠ []

theorem sound_empty : Sound {} := ⟨.inl rfl, fun h => absurd h (by decide), fun h => absurd rfl h⟩

/-- Something is held if the run may become the selector by itself. -/
theorem Sound.held_ne_nil {p : Pending} (h : p.Sound) (hloose : p.loose = true) : p.held ≠ [] := by
  intro hnil
  have hend := h.held_end hloose
  rw [hnil] at hend
  cases hend

theorem Sound.add {p : Pending} (h : p.Sound) (c : Char) : (p.add c).Sound :=
  ⟨h.lead_end, h.held_end, fun _ => by simp [Pending.add, selector]⟩

theorem Sound.hold {p : Pending} (h : p.Sound) {c : Char} {loose : Bool}
    (hc : loose = true → c = '\n') : (p.hold c loose).Sound where
  lead_end := h.lead_end
  held_end hloose := by
    obtain rfl := hc hloose
    simp [Pending.hold]
  selector_ne _ := by simp [Pending.hold, selector]

theorem Sound.settle {p : Pending} (h : p.Sound) : p.settle.Sound := by
  rw [Pending.settle]
  split
  · rename_i hrun
    obtain ⟨hloose, hblank⟩ := (Bool.and_eq_true _ _).mp hrun
    -- the run becomes the whole selector, so it has to hold something
    have run_ne : p.run ≠ [] := by
      rintro hnil
      simp [hnil, isBlank_nil] at hblank
    refine ⟨.inr ?_, ?_, ?_⟩
    · rw [List.getLast?_append, h.held_end hloose]
      rfl
    · intro h
      cases h
    · intro hlead
      simpa [selector] using run_ne
  · exact h

end Pending

end SheetLex
