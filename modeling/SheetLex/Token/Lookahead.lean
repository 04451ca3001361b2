import SheetLex.Token.Tokenizer

/-!
# Looking one token ahead

A `Lookahead` reads the tokens of a tokenizer one by one, as a grammar does. `nextKind` asks which
of several kinds comes next and leaves the token there; `take` takes the next token, which has to
be of the kind asked for. Both ask for the token with the same index, so a token that was looked at
under some names can be taken under one of them.
-/

set_option autoImplicit false

namespace SheetLex

/-- A reader of the tokens of a tokenizer. -/
structure Lookahead where
  tokenizer : Tokenizer
  /-- The index of the next token. -/
  position : Nat := 0

namespace Lookahead

variable {engine : RegexEngine} {options : MatchOptions}

/-- A reader at the first token. -/
def ofTokenizer (tokenizer : Tokenizer) : Lookahead := { tokenizer }

/-- Start over with another input. -/
def restart (c : Lookahead) (input : Text) : Lookahead :=
  { tokenizer := c.tokenizer.restart input, position := 0 }

/-- The name of the next token, if it is one of the kinds given. The token stays in place. -/
def nextKind (r : Lexicon engine options) (c : Lookahead) (kinds : List String) :
    Except TokenError (Option String) × Lookahead × Lexicon engine options :=
  match c.tokenizer.tokenAt r c.position kinds with
  | (.ok t, tokenizer, r) => (.ok (some t.name), { c with tokenizer }, r)
  | (.error e, tokenizer, r) =>
    (if e.isMismatch then .ok none else .error e, { c with tokenizer }, r)

/-- Take the next token, which has to be of the kind given, and give its text. -/
def take (r : Lexicon engine options) (c : Lookahead) (kind : String) :
    Except TokenError Text × Lookahead × Lexicon engine options :=
  match c.tokenizer.tokenAt r c.position [kind] with
  | (.ok t, tokenizer, r) =>
    if t.name = kind then (.ok (tokenizer.textOf t), { tokenizer, position := c.position + 1 }, r)
    else (.error (.otherKind kind t.name t.range.start), { c with tokenizer }, r)
  | (.error e, tokenizer, r) => (.error e, { c with tokenizer }, r)

end Lookahead

end SheetLex
