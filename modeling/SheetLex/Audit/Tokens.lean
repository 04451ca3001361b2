import SheetLex.Token.Tokenizer

/-!
# Auditing a tokenizer

`auditCommands` runs commands on a tokenizer and watches what has to hold after each: a failing
command leaves the history as long as it was; a token just scanned can be recalled and, having
been taken back, is scanned again the same; and the tokens of the history lie in order within
the part of the input that was read.
-/

set_option autoImplicit false

namespace SheetLex

/-- The commands that a tokenizer takes. -/
inductive TokenizerCommand where
  | tokenAt (index : Nat) (restriction : Restriction)
  | next (restriction : Restriction)
  | returnTo (index : Nat)
  | restart (input : Text)
deriving DecidableEq, Repr

namespace TokenizerCommand

variable {engine : RegexEngine} {options : MatchOptions}

/-- Run one command. Going back and starting over have no result of their own. -/
def run (r : Lexicon engine options) (s : Tokenizer) :
    TokenizerCommand → Option (Except TokenError Token) × Tokenizer × Lexicon engine options
  | .tokenAt index restriction =>
    let (result, s, r) := s.tokenAt r index restriction
    (some result, s, r)
  | .next restriction =>
    let (result, s, r) := s.next r restriction
    (some result, s, r)
  | .returnTo index => (none, s.returnTo index, r)
  | .restart input => (none, s.restart input, r)

end TokenizerCommand

/-- What a run of a tokenizer can be found to violate. -/
inductive TokenizerFault where
  /-- A token was given with an index beyond the history. -/
  | indexBeyondHistory
  /-- A pattern is not valid. -/
  | invalidPattern
  /-- A failing command changed the length of the history. -/
  | historyChanged
  /-- A token just scanned was not given again. -/
  | notRecalled
  /-- Going back or starting over left a history of the wrong length, or a wrong position. -/
  | notReturned
  /-- A token lies beyond the input or beyond the position. -/
  | tokenOutside
  /-- Neighbouring tokens overlap or are the same. -/
  | tokensOutOfOrder
deriving DecidableEq, Repr

namespace Audit

variable {engine : RegexEngine} {options : MatchOptions}

/-- Raise a fault unless the condition holds. -/
def require (condition : Bool) (fault : TokenizerFault) : Except TokenizerFault Unit :=
  if condition then .ok () else .error fault

/-- Whether neighbouring tokens lie in order and differ. -/
def inOrder : List Token → Bool
  | [] => true
  | [_] => true
  | t :: u :: rest => decide (t.range.stop ≤ u.range.start) && t != u && inOrder (u :: rest)

/-- Watch the history. -/
def checkTokens (s : Tokenizer) : Except TokenizerFault Unit := do
  let within (t : Token) : Bool :=
    decide (t.range.stop ≤ s.input.byteLength) && decide (t.range.stop ≤ s.position)
  require (s.tokens.all within) .tokenOutside
  require (inOrder s.tokens) .tokensOutOfOrder

/-- Watch that the token with the index given is the one expected. -/
def checkSame (r : Lexicon engine options) (s : Tokenizer) (index : Nat) (restriction : Restriction)
    (expected : Token) : Except TokenizerFault (Tokenizer × Lexicon engine options) :=
  match s.tokenAt r index restriction with
  | (.ok t, s, r) => if t = expected then .ok (s, r) else .error .notRecalled
  | (.error _, _, _) => .error .notRecalled

/-- Run one command and watch its effect. -/
def command (r : Lexicon engine options) (s : Tokenizer) :
    TokenizerCommand → Except TokenizerFault (Tokenizer × Lexicon engine options)
  | .tokenAt index restriction =>
    let before := s.history.length
    match s.tokenAt r index restriction with
    | (.ok _, s, r) => do
      require (decide (index < s.history.length)) .indexBeyondHistory
      return (s, r)
    | (.error (.invalidPattern ..), _, _) => .error .invalidPattern
    | (.error _, s, r) => do
      require (s.history.length == before) .historyChanged
      return (s, r)
  | .next restriction =>
    let before := s.history.length
    match s.next r restriction with
    | (.ok t, s, r) => do
      let (s, r) ← checkSame r s before restriction t
      if before = 0 then return (s, r)
      else checkSame r (s.returnTo before) before restriction t
    | (.error _, s, r) => .ok (s, r)
  | .returnTo index => do
    let s' := s.returnTo index
    require (s'.history.length == min s.history.length index) .notReturned
    return (s', r)
  | .restart input => do
    let s := s.restart input
    require (s.history.isEmpty && s.position == 0) .notReturned
    return (s, r)

/-- Run commands one after the other and watch each. -/
def commands :
    Lexicon engine options → Tokenizer → List TokenizerCommand → Except TokenizerFault Unit
  | _, _, [] => .ok ()
  | r, s, c :: rest => do
    let (s, r) ← command r s c
    checkTokens s
    commands r s rest

end Audit

/-- Run commands on a new tokenizer and watch each. -/
def auditCommands {engine : RegexEngine} {options : MatchOptions} (r : Lexicon engine options)
    (ignored : List String) (input : Text) (cs : List TokenizerCommand) :
    Except TokenizerFault Unit :=
  Audit.commands r (.ofInput r ignored input) cs

end SheetLex
