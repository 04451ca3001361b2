import SheetLex.Layout.Condensed
import SheetLex.Block.Basic
import SheetLex.Block.Lexical

/-!
# Splitting a source into blocks

A `Splitter` divides a source text into blocks, one at a time. It reads the source character by
character, keeps count of open strings, parentheses and braces, and lets `LexicalMode.action?`
decide what each character does. Only outermost blocks are found: the body of a rule is handed
out as it stands, for a splitter of its own.

Four marks remember where the text pending at any point may be cut. `pending` is the start of
all text not yet handed out, and `selector` the start of the part of it that would be the
selector if a block began now; what lies between them is a declaration that lacks its
semicolon. A line feed makes the point behind it a `tentative` start of the selector, which is
taken once text that is not blank follows; a comma withdraws it, since a selector goes on behind
a comma. `boundary` is the point behind the last comma or opening parenthesis.

An opening brace directly behind a `#` belongs to an interpolation and begins no block.

At the end of the source the pending text becomes a last declaration. If a construct is open
there, everything open is closed, and the block that results reports the construct; the next
call reports the end and starts the source over.
-/

set_option autoImplicit false

namespace SheetLex

/-- Choices in splitting. -/
structure SplitOptions where
  /-- Keep white space at the ends of bodies. -/
  rawBodies : Bool := false
deriving DecidableEq, Repr

/-- How far a splitter has come: a position, the open constructs, and the marks in the pending
text. Positions count characters. -/
structure SplitterState where
  /-- The position of the next character. -/
  cursor : Nat := 0
  /-- The line number last given by a hint. -/
  line : Nat := 0
  /-- The number of open braces. -/
  depth : Nat := 0
  /-- The number of open parentheses. -/
  parens : Nat := 0
  /-- The quote that opened the string around the cursor. -/
  quote : Option Quote := none
  /-- Whether the outermost open brace belongs to an interpolation. -/
  interpolation : Bool := false
  /-- The start of the pending text. -/
  pending : Nat := 0
  /-- The start of the pending selector. -/
  selector : Nat := 0
  /-- The point behind the last comma or opening parenthesis. -/
  boundary : Nat := 0
  /-- A start of the selector that holds if text that is not blank follows it. -/
  tentative : Option Nat := some 0
  /-- The position of the brace that opened the outermost block. -/
  brace : Nat := 0
deriving DecidableEq, Repr

namespace SplitterState

/-- The lexical mode at the cursor. -/
def mode (s : SplitterState) : LexicalMode :=
  ⟨s.quote, decide (0 < s.parens), Nesting.ofDepth s.depth⟩

/-- The construct to report if the source ends now. A parenthesis comes before a string, and a
string before a block. -/
def openConstruct? (s : SplitterState) : Option OpenConstruct :=
  if 0 < s.parens then some .parenthesis
  else if s.quote.isSome then some .string
  else if 0 < s.depth then some .block
  else none

/-- Start the pending text afresh behind the position given. -/
def beginAfter (s : SplitterState) (pos length : Nat) : SplitterState :=
  let next := min (pos + 1) length
  { s with pending := next, selector := next, boundary := next, tentative := none }

/-- Note the line number of a hint, if there is one. -/
def noteLine (s : SplitterState) (hint : Option Nat) : SplitterState :=
  { s with line := hint.getD s.line }

end SplitterState

/-- A source text that is being divided into blocks. -/
structure Splitter where
  /-- The text to divide. -/
  source : Text
  /-- The choices made. -/
  options : SplitOptions := {}
  /-- How far the division has come. -/
  state : SplitterState := {}
deriving DecidableEq, Repr

namespace Splitter

/-- A splitter at the start of the source. -/
def ofSource (source : Text) (options : SplitOptions := {}) : Splitter := { source, options }

/-! ## The effects of a character

Each effect takes the source and a state, and gives the block that it completes, if any, with
the state after it. -/

section Effects

variable (source : Text) (options : SplitOptions)

/-- Hand out the text between two positions as a declaration, unless it is blank. -/
def declare (s : SplitterState) (first last : Nat) : Option Block × SplitterState :=
  let condensed := condense (Text.slice source first last)
  if condensed.isEmpty then (none, s)
  else
    let s' := s.noteLine condensed.line
    (some ⟨.complete, s'.line, condensed.text, none⟩, s')

/-- Hand out what lies before the selector as a declaration. -/
def emitPending (s : SplitterState) : Option Block × SplitterState :=
  if s.selector < s.pending then (none, s)
  else declare source { s with pending := s.selector } s.pending s.selector

/-- Take the tentative start of the selector if text that is not blank lies between it and the
position given. -/
def settle (s : SplitterState) (pos : Nat) : SplitterState :=
  match s.tentative with
  | some t => if isBlank (Text.slice source t pos) then s else { s with selector := t }
  | none => s

/-- A brace opens an outermost block, or an interpolation if it stands behind a `#`. -/
def openRule (s : SplitterState) (pos : Nat) : Option Block × SplitterState :=
  let s := { s with depth := s.depth + 1 }
  if 0 < pos ∧ source[pos - 1]? = some '#' then (none, { s with interpolation := true })
  else
    let (block, s) := emitPending source (settle source { s with brace := pos } pos)
    (block, { s with tentative := none })

/-- A brace closes an outermost block, or an interpolation. -/
def closeRule (s : SplitterState) (pos : Nat) : Option Block × SplitterState :=
  let s := { s with depth := s.depth - 1 }
  if s.interpolation then (none, { s with interpolation := false })
  else
    let selector := condense (Text.slice source s.selector s.brace)
    let s := s.noteLine selector.line
    let body := Text.slice source (s.brace + 1) pos
    let body := if options.rawBodies then body else Text.trim body
    (some ⟨.complete, s.line, selector.text, some body⟩, s.beginAfter pos source.length)

/-- A semicolon ends a declaration. -/
def endDeclaration (s : SplitterState) (pos : Nat) : Option Block × SplitterState :=
  let (block, s) := declare source { s with selector := pos } s.pending pos
  (block, s.beginAfter pos source.length)

/-- A comma: what stands before it belongs to the selector that goes on behind it. -/
def extendSelector (s : SplitterState) (pos : Nat) : SplitterState :=
  { settle source s pos with tentative := none, boundary := pos + 1 }

/-- A line feed: the selector may start behind it, provided the text before it, from the last
tentative start or boundary on, is not blank. -/
def breakLine (s : SplitterState) (pos : Nat) : SplitterState :=
  match s.tentative with
  | some t =>
    if isBlank (Text.slice source t pos) then s
    else { s with selector := t, tentative := some (pos + 1) }
  | none =>
    if isBlank (Text.slice source s.boundary pos) then s
    else { s with tentative := some (pos + 1) }

/-- The effect of an action at the position given. -/
def perform (action : Action) (s : SplitterState) (pos : Nat) : Option Block × SplitterState :=
  match action with
  | .beginString q => (none, { s with quote := some q })
  | .endString => (none, { s with quote := none })
  | .beginParens =>
    (none, { s with parens := s.parens + 1, tentative := none, boundary := pos + 1 })
  | .endParens => (none, { s with parens := s.parens - 1 })
  | .openInner => (none, { s with depth := s.depth + 1 })
  | .closeInner => (none, { s with depth := s.depth - 1 })
  | .extendSelector => (none, extendSelector source s pos)
  | .breakLine => (none, breakLine source s pos)
  | .openOuter => openRule source s pos
  | .closeOuter => closeRule source options s pos
  | .endDeclaration => endDeclaration source s pos
  | .emitPending => emitPending source s

/-- The effect of a character of the class given at the position given. -/
def react (k : Mark) (s : SplitterState) (pos : Nat) : Option Block × SplitterState :=
  match s.mode.action? k with
  | some action => perform source options action s pos
  | none => (none, s)

/-! ## Reading on -/

/-- Read the character at the cursor. A hint mark has no effect, whatever the mode. -/
def readChar (c : Char) (s : SplitterState) : Option Block × SplitterState :=
  let next := { s with cursor := s.cursor + 1 }
  if c = hintMark then (none, next) else react source options (.of c) next s.cursor

/-- Read the rest of the source up to the first block that a character completes. -/
def readOn : Text → SplitterState → Option Block × SplitterState
  | [], s => (none, s)
  | c :: rest, s =>
    match readChar source options c s with
    | (some block, s') => (some block, s')
    | (none, s') => readOn rest s'

/-- Close everything that is open at the end of the source, and hand out the block that
results. -/
def recover (s : SplitterState) : Option Block × SplitterState :=
  let length := source.length
  let s := { s with parens := 0, quote := none }
  let closed :=
    if 0 < s.depth then react source options .rightBrace { s with depth := 1 } length
    else (none, s)
  match closed with
  | (some block, s) => (some block, s)
  | (none, s) => react source options .sourceEnd { s with selector := length } length

/-- The end of the source: report an open construct, hand out what is pending, or end the pass
and start over. -/
def conclude (s : SplitterState) : Block × SplitterState :=
  match s.openConstruct? with
  | some cause =>
    let (block, s') := recover source options s
    ({ block.getD ⟨.complete, s'.line, [], none⟩ with status := .recovered cause }, s')
  | none =>
    let (block, s') :=
      if s.selector < source.length then
        react source options .sourceEnd { s with selector := source.length } source.length
      else (none, s)
    match block with
    | some block => (block, s')
    | none => (Block.finish s'.line, {})

end Effects

/-! ## The splitter -/

/-- The byte offset of the next character. -/
def position (l : Splitter) : Nat := Text.byteLength (l.source.take l.state.cursor)

/-- The line number last given by a hint. -/
def line (l : Splitter) : Nat := l.state.line

/-- Start the source over. -/
def restart (l : Splitter) : Splitter := { l with state := {} }

/-- The next block. After the last one this is the end block, and the source starts over. -/
def next (l : Splitter) : Block × Splitter :=
  match readOn l.source l.options (l.source.drop l.state.cursor) l.state with
  | (some block, s) => (block, { l with state := s })
  | (none, s) =>
    let (block, s') := conclude l.source l.options s
    (block, { l with state := s' })

/-- The remaining blocks of the pass, at most `bound` of them, without the end block. -/
def collect : Nat → Splitter → List Block × Splitter
  | 0, l => ([], l)
  | bound + 1, l =>
    let (block, l') := l.next
    if block.isEnd then ([], l')
    else
      let (blocks, l'') := collect bound l'
      (block :: blocks, l'')

/-- The remaining blocks of the pass, without the end block. Every block but the last two takes
up a character at least, so the number of characters left bounds their number. -/
def blocks (l : Splitter) : List Block × Splitter :=
  collect (l.source.length - l.state.cursor + 3) l

/-- Ask for the next block `n` times, and no more once the pass has ended. -/
def attempt : Nat → Splitter → List (Option Block) × Splitter
  | 0, l => ([], l)
  | n + 1, l =>
    let (block, l') := l.next
    if block.isEnd then (List.replicate (n + 1) none, l')
    else
      let (answers, l'') := attempt n l'
      (some block :: answers, l'')

end Splitter

/-- The blocks of a source. -/
def splitBlocks (source : Text) (options : SplitOptions := {}) : List Block :=
  (Splitter.ofSource source options).blocks.1

end SheetLex
