import SheetLex.Regex.Parser

/-!
# Automata for expressions that are not hard

An expression without look-arounds, references and the like is matched by a nondeterministic
automaton that is run on all its threads at once. The threads are kept in order of preference,
and a thread that accepts cuts off those behind it; so the match is the one that trying the
alternatives one after another would find first, in time that is linear in the text.

A repetition whose part can be empty becomes an optional non-empty repetition, so that the order
of preference stays right.
-/

set_option autoImplicit false

namespace SheetLex

/-- Whether an assertion holds between the characters of a text at the index given. -/
def Assertion.holds (a : Assertion) (chars : Array Char) (i : Nat) : Bool :=
  let before := if i = 0 then none else chars[i - 1]?
  let after := chars[i]?
  let isWord := fun c : Option Char => c.any Unicode.isWordCharacter
  match a with
  | .textStart => i == 0
  | .textEnd => after.isNone
  | .lineStart => i == 0 || before == some '\n'
  | .lineEnd => after.isNone || after == some '\n'
  | .wordBoundary => isWord before != isWord after
  | .notWordBoundary => isWord before == isWord after
  | .wordStart => !isWord before && isWord after
  | .wordEnd => isWord before && !isWord after

/-- The states of an automaton. -/
inductive AutomatonState where
  /-- Take one character of the set. -/
  | take (s : CodeSet) (next : Nat)
  /-- Go on in two states, the first preferred. -/
  | fork (first second : Nat)
  /-- Go on if the assertion holds. -/
  | check (a : Assertion) (next : Nat)
  | accept
deriving Repr, Inhabited

/-- An automaton: its states, and the one to begin in. -/
structure Automaton where
  states : Array AutomatonState
  start : Nat
deriving Repr, Inhabited

namespace Automaton

/-! ## Building -/

/-- The greatest count in a repetition of an automaton. -/
def greatestCount : Nat := 0xFFFFFFFF

/-- The bytes an automaton for a set of characters takes, roughly. -/
def setCost (s : CodeSet) : Nat := 24 + 16 * s.intervals.length

/-- The bytes an automaton for the expression takes, roughly. -/
def cost : Regex → Nat
  | .set s => setCost s
  | .literal _ ignoreCase => if ignoreCase then 48 else 24
  | .any _ => 96
  | .assertion _ => 24
  | .sequence parts => costs parts
  | .choice parts => 24 + costs parts
  | .capture _ part => 48 + cost part
  | .repetition part least most _ => 24 + cost part * max 1 (most.getD (least + 1))
  | _ => 24
where
  /-- The sum of the costs. -/
  costs : List Regex → Nat
    | [] => 0
    | r :: rs => cost r + costs rs

/-- Whether the automaton of the expression takes more than `limit` bytes. A plain text needs no
automaton to be found, and so no bytes. -/
def exceeds (limit : Nat) (r : Regex) : Bool := r.fixedText?.isNone && decide (limit < cost r)

/-- Whether all repetitions have bounds in order and within the limit. -/
def boundsFit : Regex → Bool
  | .sequence parts | .choice parts => allFit parts
  | .capture _ part => boundsFit part
  | .repetition part least most _ =>
    boundsFit part && least ≤ greatestCount &&
      most.all fun n => least ≤ n && n ≤ greatestCount
  | _ => true
where
  /-- Whether the bounds fit in all parts. -/
  allFit : List Regex → Bool
    | [] => true
    | r :: rs => boundsFit r && allFit rs

/-- A step of building: the states so far are extended. -/
abbrev Builder := StateM (Array AutomatonState)

/-- Add a state, and give its number. -/
def add (s : AutomatonState) : Builder Nat := do
  let n := (← get).size
  modify (·.push s)
  return n

/-- A state that forks into a repetition's part and what follows it. -/
def forkState (greedy : Bool) (part next : Nat) : AutomatonState :=
  if greedy then .fork part next else .fork next part

/-- Build the part `n` times in sequence. -/
def buildTimes (part : Nat → Builder Nat) : Nat → Nat → Builder Nat
  | 0, next => return next
  | n + 1, next => do part (← buildTimes part n next)

/-- Build up to `n` further occurrences of the part; each can be left out with all behind it. -/
def buildUpTo (part : Nat → Builder Nat) (greedy : Bool) (next : Nat) : Nat → Builder Nat
  | 0 => return next
  | n + 1 => do
    let rest ← buildUpTo part greedy next n
    add (forkState greedy (← part rest) next)

/-- Build one occurrence of the part at least. -/
def buildLoop (part : Nat → Builder Nat) (greedy : Bool) (next : Nat) : Builder Nat := do
  let loop ← add .accept
  let first ← part loop
  modify (·.set! loop (forkState greedy first next))
  return first

/-- Build any number of occurrences of a part that takes a character at least. -/
def buildStar (part : Nat → Builder Nat) (greedy : Bool) (next : Nat) : Builder Nat := do
  let loop ← add .accept
  let first ← part loop
  modify (·.set! loop (forkState greedy first next))
  return loop

/-- Build the states for an expression in front of the state `next`, and give the first. -/
def build : Regex → Nat → Builder Nat
  | .any lineFeedToo, next =>
    add (.take (if lineFeedToo then .all else (CodeSet.singleton '\n').complement) next)
  | .assertion a, next => add (.check a next)
  | .literal c ignoreCase, next =>
    add (.take (Unicode.closeUnderCaseIf ignoreCase (.singleton c)) next)
  | .set s, next => add (.take s next)
  | .sequence parts, next => buildAll parts next
  | .choice parts, next => buildAny parts next
  | .capture _ part, next => build part next
  | .repetition part least most greedy, next =>
    let one := fun next => build part next
    match least, most with
    | least, some most => do
      buildTimes one least (← buildUpTo one greedy next (most - least))
    | 0, none =>
      if 0 < part.minSize then buildStar one greedy next
      else do add (forkState greedy (← buildLoop one greedy next) next)
    | least + 1, none => do buildTimes one least (← buildLoop one greedy next)
  | _, next => return next
where
  /-- Build the parts in sequence. -/
  buildAll : List Regex → Nat → Builder Nat
    | [], next => return next
    | r :: rs, next => do build r (← buildAll rs next)
  /-- Build the parts as alternatives. -/
  buildAny : List Regex → Nat → Builder Nat
    | [], next => return next
    | [r], next => build r next
    | r :: rs, next => do
      let first ← build r next
      add (.fork first (← buildAny rs next))

/-- The automaton of an expression that is not hard, if it takes `limit` bytes at most. -/
def ofRegex (limit : Nat) (r : Regex) : Except RegexError Automaton :=
  if !boundsFit r then .error .invalidRepetition
  else if exceeds limit r then .error .tooLarge
  else
    let (start, states) := (build r 0).run #[.accept]
    .ok ⟨states, start⟩

/-- The set of characters of an automaton that takes one character and accepts. -/
def singleSet? (a : Automaton) : Option CodeSet :=
  match a.states[a.start]? with
  | some (.take s next) =>
    match a.states[next]? with
    | some .accept => some s
    | _ => none
  | _ => none

/-! ## Running -/

/-- The threads at a position: the states seen, as bits, and those that take a character or
accept, the least preferred first. -/
structure Threads where
  seen : Nat := 0
  waiting : List Nat := []

/-- Add the threads that a state leads to at the index given. Every round but the last marks a
state as seen, so the number of states is enough for `fuel`. -/
def follow (a : Automaton) (chars : Array Char) (i : Nat) : Nat → Nat → Threads → Threads
  | 0, _, threads => threads
  | fuel + 1, n, threads =>
    if threads.seen.testBit n then threads
    else
      let marked := { threads with seen := threads.seen ||| (1 <<< n) }
      match a.states[n]? with
      | some (.fork first second) =>
        follow a chars i fuel second (follow a chars i fuel first marked)
      | some (.check assertion next) =>
        if assertion.holds chars i then follow a chars i fuel next marked else marked
      | some _ => { marked with waiting := n :: marked.waiting }
      | none => marked

/-- Move the threads, given in order of preference, over the character at index `i`. The result
holds the threads behind the character and whether one of the threads accepted before it; those
less preferred than that one are dropped. -/
def advance (a : Automaton) (chars : Array Char) (i : Nat) :
    List Nat → Threads → Threads × Bool
  | [], moved => (moved, false)
  | n :: rest, moved =>
    match a.states[n]? with
    | some .accept => (moved, true)
    | some (.take s next) =>
      match chars[i]? with
      | some c =>
        let moved := if s.contains c then
          follow a chars (i + 1) (a.states.size + 1) next moved else moved
        advance a chars i rest moved
      | none => advance a chars i rest moved
    | _ => advance a chars i rest moved

/-- Run the threads on; `best` is the end of the match found so far. The number of characters
left bounds the number of rounds. -/
def run (a : Automaton) (chars : Array Char) : Nat → Nat → Threads → Option Nat → Option Nat
  | 0, _, _, best => best
  | fuel + 1, i, threads, best =>
    match threads.waiting with
    | [] => best
    | waiting =>
      let (moved, accepted) := advance a chars i waiting.reverse {}
      run a chars fuel (i + 1) moved (if accepted then some i else best)

/-- The end of the preferred match that starts at the index given. -/
def matchEnd? (a : Automaton) (chars : Array Char) (i : Nat) : Option Nat :=
  run a chars (chars.size - i + 2) i (follow a chars i (a.states.size + 1) a.start {}) none

end Automaton

end SheetLex
