import SheetLex.Text.ByteRange

/-!
# Tokens and the ways in which scanning fails

A token names the pattern that matched and the range of bytes it matched. A scan fails when nothing
matches, when a token is asked for in a way that cannot be answered, or when a pattern itself is
at fault.
-/

set_option autoImplicit false

namespace SheetLex

/-- A match of a pattern. -/
structure Token where
  /-- The rank of the pattern. -/
  rank : Nat
  /-- The name of the pattern. -/
  name : String
  /-- Where the match lies in the input. -/
  range : ByteRange
deriving DecidableEq, Repr

namespace Token

/-- Whether the match took no characters. -/
def isEmpty (t : Token) : Bool := t.range.isEmpty

/-- The text of the token in the input given; empty if the range does not fit that input. -/
def textIn (t : Token) (input : Text) : Text := (t.range.textIn? input).getD []

end Token

/-- The ways in which a scan fails. -/
inductive TokenError where
  /-- No pattern matches at the position. -/
  | noMatch (pos : Nat)
  /-- None of the patterns asked for matches at the position. -/
  | noMatchAmong (pos : Nat) (restriction : List String)
  /-- A token of the history was asked for under names it was not scanned under. -/
  | restrictionChanged (index : Nat)
  /-- There is no such token: the index lies beyond the next one, or the scan made no progress. -/
  | noFurtherToken (index : Nat)
  /-- The next token has another name than the one asked for. -/
  | otherKind (expected found : String) (pos : Nat)
  /-- The source of a pattern is not valid; with the engine's diagnostic. -/
  | invalidPattern (name message : String)
  /-- The matching of a pattern was given up; with the engine's diagnostic. -/
  | matchGivenUp (name : String) (pos : Nat) (message : String)
deriving DecidableEq, Repr

namespace TokenError

/-- Names in single quotes, separated by commas. -/
def quotedNames (names : List String) : String :=
  ", ".intercalate (names.map fun name => "'" ++ name ++ "'")

/-- The beginning of the report on a position. -/
def atPosition (pos : Nat) : String := "SyntaxError[@ char " ++ toString pos ++ ": "

/-- The wording of an error. A diagnostic of the engine stands at the end, as it is. -/
def message : TokenError → String
  | noMatch pos => atPosition pos ++ "Bad token found]"
  | noMatchAmong pos restriction =>
    atPosition pos ++ "Bad token found while trying to find one of the restricted tokens: " ++
      quotedNames restriction ++ "]"
  | restrictionChanged _ => "Unimplemented: restriction set changed"
  | noFurtherToken _ => "No more tokens"
  | otherKind expected _ pos => atPosition pos ++ "Trying to find " ++ expected ++ "]"
  | invalidPattern name message => "Invalid pattern " ++ name ++ ": " ++ message
  | matchGivenUp name pos message =>
    "Pattern " ++ name ++ " aborted @ char " ++ toString pos ++ ": " ++ message

/-- Whether the error says no more than that no token of the kind asked for stands there. -/
def isMismatch : TokenError → Bool
  | noMatch _ | noMatchAmong .. => true
  | _ => false

end TokenError

end SheetLex
