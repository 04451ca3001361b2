import SheetLex.Regex.Machine

/-!
# Matchers

A `Matcher` is an expression made ready for matching: an automaton for an expression that is not
hard, a program for any other. `Matcher.compile` makes one from the source of an expression, and
`Matcher.search` looks for the first match from a given index on.
-/

set_option autoImplicit false

namespace SheetLex

/-- The first match that begins at one of `count` indices, from the index given on. -/
def Automaton.searchFrom (a : Automaton) (chars : Array Char) : Nat → Nat → Option (Nat × Nat)
  | 0, _ => none
  | count + 1, i =>
    match a.matchEnd? chars i with
    | some stop => some (i, stop)
    | none => a.searchFrom chars count (i + 1)

/-- Search the text from the index given on for the first match. -/
def Automaton.search (a : Automaton) (chars : Array Char) (i : Nat) : Option (Nat × Nat) :=
  a.searchFrom chars (chars.size - i + 1) i

/-- An expression made ready for matching. -/
inductive Matcher where
  | automaton (a : Automaton)
  | program (p : Program) (backtrackLimit : Nat)
deriving Repr, Inhabited

namespace Matcher

/-- The size limit unless another one is given. -/
def defaultSizeLimit : Nat := 10 * 1024 * 1024

/-- The backtracking limit unless another one is given. -/
def defaultBacktrackLimit : Nat := 1000000

/-- Make the expression with the source given ready for matching. -/
def compile (source : Text) (sizeLimit backtrackLimit : Option Nat) :
    Except RegexError Matcher := do
  let parsed ← Regex.parse source
  let sizeLimit := sizeLimit.getD defaultSizeLimit
  if parsed.regex.isHard parsed.referenced then
    let program ← Program.ofParsed sizeLimit parsed
    return .program program (backtrackLimit.getD defaultBacktrackLimit)
  else
    return .automaton (← Automaton.ofRegex sizeLimit parsed.regex)

/-- The search for a match was given up. -/
inductive Abort where
  | limitReached
deriving DecidableEq, Repr

/-- The indices where the first match from index `i` on begins and ends, if there is one. -/
def search (m : Matcher) (chars : Array Char) (i : Nat) : Except Abort (Option (Nat × Nat)) :=
  match m with
  | .automaton a => .ok (a.search chars i)
  | .program p limit =>
    match p.search chars i limit with
    | .found start stop => .ok (some (start, stop))
    | .notFound => .ok none
    | .givenUp => .error .limitReached

end Matcher

end SheetLex
