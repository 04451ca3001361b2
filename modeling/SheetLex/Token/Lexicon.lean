import SheetLex.Token.Pattern

/-!
# Lexicons

A lexicon lists named patterns in order of precedence. The first pattern added under a name
counts; later ones change nothing. A pattern is compiled when it is first tried, and the lexicon
remembers which patterns that has happened to: that is all that matching changes in it.
-/

set_option autoImplicit false

namespace SheetLex

/-- Patterns in order of precedence, under the options given. -/
structure Lexicon (engine : RegexEngine) (options : MatchOptions) where
  /-- The patterns; a pattern's place is its rank. -/
  patterns : List (Pattern engine options) := []
  /-- The ranks of the patterns that were compiled, or found not to compile. -/
  attempted : List Nat := []

namespace Lexicon

variable {engine : RegexEngine} {options : MatchOptions}

/-! ## Looking up -/

/-- The number of patterns. -/
def size (r : Lexicon engine options) : Nat := r.patterns.length

/-- Whether there are no patterns. -/
def isEmpty (r : Lexicon engine options) : Bool := r.patterns.isEmpty

/-- The rank of the pattern with the name given. -/
def rank? (r : Lexicon engine options) (name : String) : Option Nat :=
  r.patterns.findIdx? fun p => p.name == name

/-- The pattern with the rank given. -/
def pattern? (r : Lexicon engine options) (rank : Nat) : Option (Pattern engine options) :=
  r.patterns[rank]?

/-- Whether the compilation of the pattern with the rank given was attempted. -/
def isAttempted (r : Lexicon engine options) (rank : Nat) : Bool := r.attempted.contains rank

/-- The names of the patterns whose compilation was attempted, in order of precedence. -/
def attemptedNames (r : Lexicon engine options) : List String :=
  r.patterns.zipIdx.filterMap fun (p, rank) => if r.isAttempted rank then some p.name else none

/-! ## Adding patterns -/

/-- Add a pattern, unless its name is taken. Gives the rank of the pattern with that name. -/
def add (r : Lexicon engine options) (name source : String) : Nat × Lexicon engine options :=
  match r.rank? name with
  | some rank => (rank, r)
  | none => (r.size, { r with patterns := r.patterns ++ [.ofSource name source] })

/-- Add patterns, given by name and source, one after the other. -/
def addAll (r : Lexicon engine options) (patterns : List (String × String)) :
    Lexicon engine options :=
  patterns.foldl (fun r p => (r.add p.1 p.2).2) r

/-- The lexicon of the patterns given by name and source. -/
def ofList (patterns : List (String × String)) : Lexicon engine options := addAll {} patterns

/-! ## Compiling patterns -/

/-- Note that the compilation of the patterns with the ranks given was attempted. -/
def markAttempted (r : Lexicon engine options) (ranks : List Nat) : Lexicon engine options :=
  { r with attempted := ranks.foldl (fun seen rank => seen.insert rank) r.attempted }

/-- Compile patterns from the rank given on, up to the first that is not valid. Gives the error,
if there is one, and the ranks of the patterns reached. -/
def prepareFrom : Nat → List (Pattern engine options) → Except TokenError Unit × List Nat
  | _, [] => (.ok (), [])
  | rank, p :: rest =>
    match p.matcher.get with
    | .error cause => (.error (.invalidPattern p.name cause), [rank])
    | .ok _ =>
      let (result, ranks) := prepareFrom (rank + 1) rest
      (result, rank :: ranks)

/-- Compile all patterns, up to the first that is not valid. -/
def prepareAll (r : Lexicon engine options) : Except TokenError Unit × Lexicon engine options :=
  let (result, ranks) := prepareFrom 0 r.patterns
  (result, r.markAttempted ranks)

end Lexicon

end SheetLex
