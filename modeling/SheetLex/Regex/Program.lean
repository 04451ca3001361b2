import SheetLex.Regex.Automaton

/-!
# Programs for hard expressions

A hard expression becomes a program for the backtracking machine. A program keeps choices open
with `branch` and stores positions and counts in slots; slots `2 n` and `2 n + 1` hold the start
and the end of group `n`, group `0` being the whole match.

Parts that are not hard are left to automata where that changes nothing: a piece for an
automaton has one match only, so behind it there must be no choice that depends on another
match. Inside a hard sequence that is so for parts of a fixed size; at the end of an atomic part
or a look-around it is so for all parts.
-/

set_option autoImplicit false

namespace SheetLex

/-- The instructions of the backtracking machine. -/
inductive Instruction where
  /-- Take exactly these characters. -/
  | text (chars : List Char)
  /-- Take one character of the set. -/
  | take (s : CodeSet)
  | any (lineFeedToo : Bool)
  | check (a : Assertion)
  /-- Take what an automaton prefers. -/
  | piece (a : Automaton)
  /-- Go on at the first address; the second stays open. -/
  | branch (first second : Nat)
  | goto (address : Nat)
  /-- Store the position. -/
  | save (slot : Nat)
  /-- Store the count zero. -/
  | clear (slot : Nat)
  /-- Go to the position stored. -/
  | restore (slot : Nat)
  /-- Begin another round of a repetition, or leave it for `exit`. -/
  | round (least : Nat) (most : Option Nat) (exit : Nat) (counter : Nat) (greedy : Bool)
  /-- The same for a repetition without upper bound whose part may be empty: a round that took
  nothing ends it. `origin` stores where the round began. -/
  | roundOnward (least : Nat) (exit : Nat) (counter origin : Nat) (greedy : Bool)
  /-- Take the text of a group again. -/
  | repeatGroup (group : Nat)
  /-- Go on only if the group has taken part. -/
  | requireGroup (group : Nat)
  /-- Go back by a number of characters. -/
  | back (count : Nat)
  /-- The inside of a negated look-around has matched: drop its choices and fail. -/
  | refuse
  | beginAtomic
  | endAtomic
  /-- Go on only where the search started. -/
  | checkSearchStart
  | finish
deriving Repr, Inhabited

/-- A program: its instructions, and the number of slots they use. -/
structure Program where
  code : Array Instruction
  slots : Nat
deriving Repr, Inhabited

namespace Program

/-- A step of writing a program: the program so far is extended. -/
abbrev Writer := StateT Program (Except RegexError)

/-- The address of the next instruction. -/
def here : Writer Nat := do return (← get).code.size

/-- Write an instruction. -/
def write (i : Instruction) : Writer Unit := modify fun p => { p with code := p.code.push i }

/-- Replace the instruction at an address. -/
def patch (address : Nat) (i : Instruction) : Writer Unit :=
  modify fun p => { p with code := p.code.set! address i }

/-- A slot that is not in use yet. -/
def newSlot : Writer Nat := do
  let n := (← get).slots
  modify fun p => { p with slots := n + 1 }
  return n

/-- What writing depends on: the groups referred to, and the limit on the size of automata. -/
structure Settings where
  referenced : List Nat
  sizeLimit : Nat
deriving Repr

/-- Write a part that is not hard. An automaton that only takes one character is replaced by an
instruction of its own. -/
def writeEasy (settings : Settings) (r : Regex) : Writer Unit := do
  match r.fixedText? with
  | some chars => write (.text chars)
  | none =>
    let a ← Automaton.ofRegex settings.sizeLimit r
    match a.singleSet? with
    | some s => write (.take s)
    | none => write (.piece a)

/-- Write parts that are not hard in sequence, unless there is none. -/
def writeEasyParts (settings : Settings) (parts : List Regex) : Writer Unit :=
  if parts.isEmpty then return else writeEasy settings (.sequence parts)

/-- Write alternatives: each but the last keeps the next one open, and jumps behind the last when
it has matched. -/
def writeAlternatives : List (Writer Unit) → Writer Unit
  | [] => return
  | [last] => last
  | first :: others => do
    let choice ← here
    write (.branch 0 0)
    first
    let jump ← here
    write (.goto 0)
    patch choice (.branch (choice + 1) (← here))
    writeAlternatives others
    patch jump (.goto (← here))

/-- The order of the two ways at a repetition: into its part, or behind it. -/
def loopBranch (greedy : Bool) (part next : Nat) : Instruction :=
  if greedy then .branch part next else .branch next part

/-- Write a repetition, given how to write its part. -/
def writeRepetition (part : Writer Unit) (partMayBeEmpty : Bool) (least : Nat)
    (most : Option Nat) (greedy : Bool) : Writer Unit := do
  match least, most, partMayBeEmpty with
  | 0, some 1, _ =>
    let choice ← here
    write (.branch 0 0)
    part
    patch choice (loopBranch greedy (choice + 1) (← here))
  | least, none, true =>
    let counter ← newSlot
    let origin ← newSlot
    write (.clear counter)
    let round ← here
    write (.roundOnward least 0 counter origin greedy)
    part
    write (.goto round)
    patch round (.roundOnward least (← here) counter origin greedy)
  | 0, none, false =>
    let choice ← here
    write (.branch 0 0)
    part
    write (.goto choice)
    patch choice (loopBranch greedy (choice + 1) (← here))
  | 1, none, false =>
    let start ← here
    part
    write (loopBranch greedy start ((← here) + 1))
  | least, most, _ =>
    let counter ← newSlot
    write (.clear counter)
    let round ← here
    write (.round least most 0 counter greedy)
    part
    write (.goto round)
    patch round (.round least most (← here) counter greedy)

/-- Write the inside of a look-around. Looking behind begins by going back, which takes an
inside of a fixed size. -/
def writeInside (direction : Direction) (inside : Regex) (body : Writer Unit) : Writer Unit := do
  if direction == .behind then
    unless inside.hasFixedSize do throw .lookBehindOfVariableSize
    write (.back inside.minSize)
  body

/-- Write a look-around, given its inside and how to write that. -/
def writeLook (direction : Direction) (negated : Bool) (inside : Regex) (body : Writer Unit) :
    Writer Unit := do
  if negated then
    let choice ← here
    write (.branch 0 0)
    writeInside direction inside body
    write .refuse
    patch choice (.branch (choice + 1) (← here))
  else
    let position ← newSlot
    write (.save position)
    writeInside direction inside body
    write (.restore position)

/-- The number of parts at the start of a sequence that satisfy a test. -/
def countPrefix (test : Regex → Bool) (parts : List Regex) : Nat := (parts.takeWhile test).length

/-- How a sequence is divided: the numbers of parts before, inside and behind its hard middle.
What follows a part of the middle may need another match of it, so only parts of fixed size lie
before the middle, and behind it too if `hard` tells that more follows. -/
def divide (settings : Settings) (hard : Bool) (parts : List Regex) : Nat × Nat × Nat :=
  let easy := fun r : Regex => !r.isHard settings.referenced
  let fixed := fun r : Regex => r.hasFixedSize && easy r
  let before := countPrefix fixed parts
  let behind := countPrefix (if hard then fixed else easy) (parts.drop before).reverse
  (before, parts.length - before - behind, behind)

/-- Write an expression. `hard` tells whether what follows may need another match of it. -/
def writeRegex (settings : Settings) (hard : Bool) (r : Regex) : Writer Unit :=
  if !hard && !r.isHard settings.referenced then writeEasy settings r
  else
    match r with
    | .empty => return
    | .any lineFeedToo => write (.any lineFeedToo)
    | .assertion a => write (.check a)
    | .literal .. | .set _ => writeEasy settings r
    | .sequence parts => do
      let (before, middle, behind) := divide settings hard parts
      writeEasyParts settings (parts.take before)
      writeSome before middle parts
      writeEasyParts settings (parts.drop (parts.length - behind))
    | .choice parts => writeAlternatives (writeEach hard parts)
    | .capture group part => do
      write (.save (2 * group))
      writeRegex settings hard part
      write (.save (2 * group + 1))
    | .look direction negated part =>
      let whole := writeLook direction negated part (writeRegex settings false part)
      if direction == .ahead || part.hasFixedSize then whole
      else
        match lookBehindEach? negated part with
        | some looks => if negated then writeInSequence looks else writeAlternatives looks
        | none => whole
    | .repetition part least most greedy =>
      let simple := least == 0 && most == some 1
      let inner := if simple then hard else hard || part.isHard settings.referenced
      writeRepetition (writeRegex settings inner part) (part.minSize == 0) least most greedy
    | .reference group => write (.repeatGroup group)
    | .groupSet group => write (.requireGroup group)
    | .atomic part => do
      write .beginAtomic
      writeRegex settings false part
      write .endAtomic
    | .matchStart => write (.save 0)
    | .searchStart => write .checkSearchStart
    | .conditional condition yes no => do
      write .beginAtomic
      let choice ← here
      write (.branch 0 0)
      writeRegex settings hard condition
      write .endAtomic
      writeRegex settings hard yes
      let jump ← here
      write (.goto 0)
      patch choice (.branch (choice + 1) (← here))
      writeRegex settings hard no
      patch jump (.goto (← here))
where
  /-- Write `count` of the parts, after leaving out the first ones. -/
  writeSome : Nat → Nat → List Regex → Writer Unit
    | _, _, [] => return
    | 0, 0, _ => return
    | 0, count + 1, r :: rs => do
      writeRegex settings true r
      writeSome 0 count rs
    | leftOut + 1, count, _ :: rs => writeSome leftOut count rs
  /-- How to write each of the parts. -/
  writeEach (hard : Bool) : List Regex → List (Writer Unit)
    | [] => []
    | r :: rs => writeRegex settings hard r :: writeEach hard rs
  /-- How to look behind for each alternative, if there are alternatives. -/
  lookBehindEach? (negated : Bool) : Regex → Option (List (Writer Unit))
    | .choice parts => some (writeLooks negated parts)
    | _ => none
  /-- How to look behind for each of the parts. -/
  writeLooks (negated : Bool) : List Regex → List (Writer Unit)
    | [] => []
    | r :: rs =>
      writeLook .behind negated r (writeRegex settings false r) :: writeLooks negated rs
  /-- Write one after the other. -/
  writeInSequence : List (Writer Unit) → Writer Unit
    | [] => return
    | w :: ws => do
      w
      writeInSequence ws

/-- The program of an expression. -/
def ofParsed (sizeLimit : Nat) (p : ParsedRegex) : Except RegexError Program := do
  let settings : Settings := ⟨p.referenced, sizeLimit⟩
  let writer : Writer Unit := do
    write (.save 0)
    writeRegex settings true p.regex
    write (.save 1)
    write .finish
  let ((), program) ← writer.run ⟨#[], 2 * (p.groups + 1)⟩
  return program

end Program

end SheetLex
