import SheetLex.Text.Subject

/-!
# Engines of regular expressions

Patterns are written as regular expressions, and an engine compiles and matches them. Which dialect
it reads, how it searches, and when it gives up is its own affair: `RegexEngine` names what the
library calls, and the one fact about the answers that the library relies on. Everything that is
built on patterns takes the engine as a parameter.
-/

set_option autoImplicit false

namespace SheetLex

/-- Choices in compiling and matching patterns. -/
structure MatchOptions where
  /-- Whether letters match in either case. -/
  caseInsensitive : Bool := false
  /-- The number of bytes that a compiled expression, or a part of one, may take. -/
  sizeLimit : Option Nat := none
  /-- The number of steps that the search for a match may take back. -/
  backtrackLimit : Option Nat := none
deriving DecidableEq, Repr

/-- An engine of regular expressions. Both operations are functions: the same arguments give the
same answer, whenever they are asked. -/
structure RegexEngine where
  /-- A compiled expression. -/
  Matcher : Type
  /-- Compile the source of an expression, with a limit on its size and one on backtracking; a
  limit not given is the engine's own. Fails with a diagnostic. -/
  build : Text → Option Nat → Option Nat → Except String Matcher
  /-- The first match that begins at the byte offset given or behind it, if there is one. The text
  before the offset stays in view, so assertions and look-behinds see it. Fails with a diagnostic
  when the search is given up. -/
  findFrom : Matcher → Subject → Nat → Except String (Option ByteRange)
  /-- A match is a piece of the text that was searched. -/
  contains_of_findFrom : ∀ {matcher : Matcher} {input : Subject} {pos : Nat} {range : ByteRange},
    findFrom matcher input pos = .ok (some range) → input.Contains range

/-- The source of an expression with the flag that the options ask for. -/
def MatchOptions.flag (options : MatchOptions) (source : Text) : Text :=
  if options.caseInsensitive then ['(', '?', 'i', ')'] ++ source else source

/-- Compile an expression under the options given. -/
def RegexEngine.compile (engine : RegexEngine) (options : MatchOptions) (source : String) :
    Except String engine.Matcher :=
  engine.build (options.flag source.toList) options.sizeLimit options.backtrackLimit

end SheetLex
