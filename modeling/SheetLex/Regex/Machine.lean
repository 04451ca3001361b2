import SheetLex.Regex.Program

/-!
# The backtracking machine

The machine runs a program over a text. Where a program leaves a choice open, the machine pushes
a frame that holds all it needs to come back: the address, the position, the slots and the marks
of atomic groups. When an instruction fails, the frame pushed last is taken up again, and that
is counted as a failure.

A search runs the program at one position after another. Going on to the next position is the
choice that is left open longest, so it counts as a failure too. A search that fails more often
than its limit allows is given up.
-/

set_option autoImplicit false

namespace SheetLex

/-- A choice left open. -/
structure Frame where
  address : Nat
  position : Nat
  slots : Array (Option Nat)
  marks : List Nat
deriving Repr

/-- The machine between two instructions. -/
structure MachineState where
  /-- The address of the next instruction. -/
  address : Nat := 0
  /-- The index of the next character. -/
  position : Nat
  /-- Positions and counts stored by the program. -/
  slots : Array (Option Nat)
  /-- For each open atomic group, the number of frames when it was entered. -/
  marks : List Nat := []
  /-- The choices left open, the latest first. -/
  frames : List Frame := []
  /-- The number of frames. -/
  height : Nat := 0
  /-- How often a frame was taken up again. -/
  failures : Nat := 0
deriving Repr

/-- How a run from one position ends. -/
inductive RunOutcome where
  | found (start stop : Nat)
  /-- No choice is left; so many failures were met, those of earlier runs included. -/
  | exhausted (failures : Nat)
  /-- The run took more than its limits allow. -/
  | givenUp
deriving DecidableEq, Repr

/-- How a search ends. -/
inductive SearchOutcome where
  | found (start stop : Nat)
  | notFound
  /-- The search took more than its limits allow. -/
  | givenUp
deriving DecidableEq, Repr

/-- What an instruction leads to. -/
inductive Move where
  | onward (s : MachineState)
  | fail (s : MachineState)
  | stop (outcome : RunOutcome)

namespace MachineState

/-- The greatest number of frames: one less than a million, for the choice to search on. -/
def greatestHeight : Nat := 999999

/-- The value of a slot. -/
def slot (s : MachineState) (n : Nat) : Option Nat := s.slots.getD n none

/-- Store a value. -/
def store (s : MachineState) (n value : Nat) : MachineState :=
  { s with slots := s.slots.setIfInBounds n (some value) }

/-- Go on at the instruction behind this one. -/
def step (s : MachineState) : MachineState := { s with address := s.address + 1 }

/-- Go on behind this instruction and at another position. -/
def stepTo (s : MachineState) (position : Nat) : MachineState :=
  { s with address := s.address + 1, position }

/-- Go on at an address. -/
def jump (s : MachineState) (address : Nat) : MachineState := { s with address }

/-- Go on at one address and keep another one open. -/
def choose (s : MachineState) (first second : Nat) : Move :=
  if greatestHeight ≤ s.height then .stop .givenUp
  else
    let frame := ⟨second, s.position, s.slots, s.marks⟩
    .onward { s with address := first, frames := frame :: s.frames, height := s.height + 1 }

/-- Drop the choices above a number of frames. -/
def cutTo (s : MachineState) (height : Nat) : MachineState :=
  { s with frames := s.frames.drop (s.height - height), height := min s.height height }

/-- Drop the choices down to the one that goes on at the address given, that one included. -/
def dropThrough (s : MachineState) (address : Nat) : MachineState :=
  let kept := (s.frames.dropWhile fun f => f.address != address).drop 1
  { s with frames := kept, height := kept.length }

end MachineState

namespace Program

/-- Whether the characters stand in the text from the index given on. -/
def standsAt (chars : Array Char) : List Char → Nat → Bool
  | [], _ => true
  | c :: rest, i => chars[i]? == some c && standsAt chars rest (i + 1)

/-- The effect of one instruction in a search that started at `origin`. -/
def perform (chars : Array Char) (origin : Nat) (s : MachineState) : Instruction → Move
  | .text expected =>
    if standsAt chars expected s.position then .onward (s.stepTo (s.position + expected.length))
    else .fail s
  | .take set =>
    match chars[s.position]? with
    | some c => if set.contains c then .onward (s.stepTo (s.position + 1)) else .fail s
    | none => .fail s
  | .any lineFeedToo =>
    match chars[s.position]? with
    | some c => if lineFeedToo || c != '\n' then .onward (s.stepTo (s.position + 1)) else .fail s
    | none => .fail s
  | .check a => if a.holds chars s.position then .onward s.step else .fail s
  | .piece a =>
    match a.matchEnd? chars s.position with
    | some stop => .onward (s.stepTo stop)
    | none => .fail s
  | .branch first second => s.choose first second
  | .goto address => .onward (s.jump address)
  | .save n => .onward (s.store n s.position).step
  | .clear n => .onward (s.store n 0).step
  | .restore n => .onward (s.stepTo ((s.slot n).getD s.position))
  | .round least most exit counter greedy =>
    let count := (s.slot counter).getD 0
    if some count == most then .onward (s.jump exit)
    else
      let s := s.store counter (count + 1)
      if count < least then .onward s.step
      else if greedy then s.choose (s.address + 1) exit
      else s.choose exit (s.address + 1)
  | .roundOnward least exit counter origin greedy =>
    let count := (s.slot counter).getD 0
    if 0 < count && s.slot origin == some s.position then .onward (s.jump exit)
    else
      let s := s.store counter (count + 1)
      if count < least then .onward s.step
      else
        let s := s.store origin s.position
        if greedy then s.choose (s.address + 1) exit else s.choose exit (s.address + 1)
  | .repeatGroup group =>
    match s.slot (2 * group), s.slot (2 * group + 1) with
    | some start, some stop =>
      let length := stop - start
      if start ≤ stop && standsAt chars (chars.extract start stop).toList s.position then
        .onward (s.stepTo (s.position + length))
      else .fail s
    | _, _ => .fail s
  | .requireGroup group =>
    if (s.slot (2 * group)).isSome then .onward s.step else .fail s
  | .back count => if count ≤ s.position then .onward (s.stepTo (s.position - count)) else .fail s
  | .refuse => .fail (s.dropThrough (s.address + 1))
  | .beginAtomic => .onward { s with marks := s.height :: s.marks }.step
  | .endAtomic =>
    match s.marks with
    | mark :: marks => .onward ({ s with marks }.cutTo mark).step
    | [] => .onward s.step
  | .checkSearchStart => if s.position ≤ origin then .onward s.step else .fail s
  | .finish =>
    let stop := (s.slot 1).getD s.position
    .stop (.found (min ((s.slot 0).getD stop) stop) stop)

/-- Take up the choice left open last. -/
def backtrack (limit : Nat) (s : MachineState) : Move :=
  match s.frames with
  | [] => .stop (.exhausted s.failures)
  | frame :: frames =>
    if limit ≤ s.failures then .stop .givenUp
    else
      .onward
        { address := frame.address, position := frame.position, slots := frame.slots,
          marks := frame.marks, frames, height := s.height - 1, failures := s.failures + 1 }

/-- Run the program from a state on, for `fuel` instructions at most. -/
def run (p : Program) (chars : Array Char) (origin limit : Nat) :
    Nat → MachineState → RunOutcome
  | 0, _ => .givenUp
  | fuel + 1, s =>
    match p.code[s.address]? with
    | none => .exhausted s.failures
    | some instruction =>
      match perform chars origin s instruction with
      | .onward s' => run p chars origin limit fuel s'
      | .stop outcome => outcome
      | .fail s' =>
        match backtrack limit s' with
        | .onward s'' => run p chars origin limit fuel s''
        | .stop outcome => outcome
        | .fail s'' => .exhausted s''.failures

/-- A number of instructions that no run within the limit needs: between two failures each
instruction is met about once for every character and round. -/
def fuelFor (p : Program) (chars : Array Char) (limit : Nat) : Nat :=
  (limit + 2) * (p.code.size + 1) * (chars.size + 2) * 64

/-- Whether a run from the position given fails at the first instruction behind the one that
stores the position, before any choice is open. -/
def failsAtOnce (p : Program) (chars : Array Char) (position : Nat) : Bool :=
  match (p.code[1]? : Option Instruction) with
  | some (.text expected) => !standsAt chars expected position
  | some (.take set) => !(chars[position]?.any set.contains)
  | _ => false

/-- A run from a position, after so many failures. -/
def runFrom (p : Program) (chars : Array Char) (origin limit position failures : Nat) :
    RunOutcome :=
  if p.failsAtOnce chars position then .exhausted failures
  else
    let slots := .replicate p.slots none
    run p chars origin limit (p.fuelFor chars limit) { position, slots, failures }

/-- Run the program at one position after another, `count` positions at most. `failures` were met
before. -/
def searchFrom (p : Program) (chars : Array Char) (origin limit : Nat) :
    Nat → Nat → Nat → SearchOutcome
  | 0, _, _ => .notFound
  | count + 1, position, failures =>
    match runFrom p chars origin limit position failures with
    | .found start stop => .found start stop
    | .givenUp => .givenUp
    | .exhausted failures =>
      if limit ≤ failures then .givenUp
      else searchFrom p chars origin limit count (position + 1) (failures + 1)

/-- Search the text from the index given on for the first match. -/
def search (p : Program) (chars : Array Char) (origin limit : Nat) : SearchOutcome :=
  searchFrom p chars origin limit (chars.size - origin + 1) origin 0

end Program

end SheetLex
