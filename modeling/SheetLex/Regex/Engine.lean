import SheetLex.Regex.Matcher
import SheetLex.Token.Engine

/-!
# A backtracking engine

`RegexEngine.backtracking` is the engine that programs and examples run with: automata for
expressions that are not hard, and a backtracking machine for any other, over the characters of a
subject. Its dialect knows the general categories of characters and a few of their properties, and
it counts the size of an automaton by an estimate.
-/

set_option autoImplicit false

namespace SheetLex

/-- The wording of what is wrong with an expression. -/
def RegexError.message : RegexError → String
  | unclosedGroup => "a group is not closed"
  | unopenedGroup => "a group is closed that is not open"
  | nestedTooDeeply => "groups are nested too deeply"
  | nothingToRepeat => "there is nothing to repeat"
  | invalidRepetition => "the bounds of a repetition are not valid"
  | invalidClass => "a class of characters is not valid"
  | invalidEscape => "an escape is not valid"
  | trailingBackslash => "a backslash stands at the end"
  | invalidCode => "the code of a character is not valid"
  | unknownProperty => "a property of characters is not known"
  | unknownFlag => "a flag is not known"
  | invalidGroupName => "the name of a group is not valid"
  | unknownGroup => "a group is not known"
  | mixedReferences => "references by number and by name are mixed"
  | emptyConditional => "a conditional has no branches"
  | lookBehindOfVariableSize => "a look-behind has no fixed size"
  | tooLarge => "the size limit is exceeded"

/-- The wording of why a search was given up. -/
def Matcher.Abort.message : Matcher.Abort → String
  | limitReached => "the backtracking limit is reached"

namespace Subject

/-- The byte offsets of the characters from the `i`-th up to the `j`-th, the latter left out. -/
def rangeOf (input : Subject) (i j : Nat) : ByteRange where
  start := Text.byteLength (input.text.take i)
  stop := Text.byteLength (input.text.take i ++ Text.slice input.text i j)

theorem contains_rangeOf (input : Subject) (i j : Nat) : input.Contains (input.rangeOf i j) := by
  obtain ⟨behind, h⟩ := Text.take_append_slice_isPrefix i j input.text
  exact contains_of_append h

end Subject

namespace Matcher

/-- The first match from a byte offset on. Between the bytes of a character no match begins. -/
def findFrom (m : Matcher) (input : Subject) (pos : Nat) : Except String (Option ByteRange) :=
  match Text.charIndex? input.text pos with
  | none => .ok none
  | some index =>
    match m.search input.chars index with
    | .error cause => .error cause.message
    | .ok found => .ok (found.map fun (i, j) => input.rangeOf i j)

theorem contains_of_findFrom {m : Matcher} {input : Subject} {pos : Nat} {range : ByteRange}
    (h : m.findFrom input pos = .ok (some range)) : input.Contains range := by
  unfold findFrom at h
  split at h
  · simp at h
  · split at h
    · simp at h
    · obtain ⟨⟨i, j⟩, -, rfl⟩ := Option.map_eq_some_iff.1 (Except.ok.inj h)
      exact input.contains_rangeOf i j

end Matcher

/-- The engine of this library. -/
def RegexEngine.backtracking : RegexEngine where
  Matcher := SheetLex.Matcher
  build source sizeLimit backtrackLimit :=
    (SheetLex.Matcher.compile source sizeLimit backtrackLimit).mapError RegexError.message
  findFrom := SheetLex.Matcher.findFrom
  contains_of_findFrom := SheetLex.Matcher.contains_of_findFrom

end SheetLex
