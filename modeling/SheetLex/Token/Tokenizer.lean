import SheetLex.Token.Lexicon
import SheetLex.Text.Quoted

/-!
# Tokenizers

A `Tokenizer` reads an input from left to right. Every scan tries the patterns of a lexicon in
order of precedence at the cursor; the first that matches wins, whatever the lengths of later
matches. Matches of ignored patterns are skipped, and an ignored pattern that matches no
characters counts as not matching. A restriction limits a scan to the patterns it names and to
the ignored ones.

Tokens are kept in a history, each with the restriction it was scanned under. A token of the
history can be asked for again under any part of that restriction, and `returnTo` goes back to a
token so that it is scanned anew.

Operations take the lexicon and the tokenizer, and give their answer with the tokenizer and the
lexicon after it; in the lexicon nothing changes but which patterns were compiled.
-/

set_option autoImplicit false

namespace SheetLex

/-- The names that a scan is limited to. No names mean no limit. -/
abbrev Restriction := List String

/-- Whether a restriction lets a name through. -/
def Restriction.allows (restriction : Restriction) (name : String) : Bool :=
  restriction.isEmpty || restriction.contains name

/-- Whether a token scanned under the restriction `stored` may be asked for under this one: one
of the two is no limit, or every name asked for is among the stored ones. -/
def Restriction.isWithin (restriction stored : Restriction) : Bool :=
  stored.isEmpty || restriction.all stored.contains

/-- A token of the history. -/
structure HistoryEntry where
  token : Token
  /-- The restriction that the token was scanned under. -/
  restriction : Restriction
deriving DecidableEq, Repr

/-- A reader of one input. -/
structure Tokenizer where
  /-- The ranks of the patterns whose matches are skipped. -/
  ignored : List Nat
  /-- The text being read. -/
  input : Subject
  /-- The byte offset where the next scan starts. -/
  cursor : Nat := 0
  /-- The tokens found since the start, or since the last return to the start. -/
  history : List HistoryEntry := []

/-- The pattern that wins at an offset, with the number of bytes it matches. -/
structure Winner where
  rank : Nat
  name : String
  length : Nat
deriving DecidableEq, Repr

namespace Tokenizer

variable {engine : RegexEngine} {options : MatchOptions}

/-- A tokenizer at the start of an input. Names that the lexicon lacks are left out. -/
def ofInput (lexicon : Lexicon engine options) (ignored : List String) (input : Text) :
    Tokenizer where
  ignored := ignored.filterMap lexicon.rank?
  input := .ofText input

/-- The byte offset where the next scan starts. -/
def position (s : Tokenizer) : Nat := s.cursor

/-- The tokens of the history. -/
def tokens (s : Tokenizer) : List Token := s.history.map HistoryEntry.token

/-- The text of a token. -/
def textOf (s : Tokenizer) (t : Token) : Text := t.textIn s.input.text

/-! ## Finding the winner -/

/-- Put a rank in front of the ranks tried. -/
def alsoTried {α : Type} (rank : Nat) (r : α × List Nat) : α × List Nat := (r.1, rank :: r.2)

/-- Whether a pattern is tried: it is ignored, or the restriction lets its name through. -/
def isEligible (ignored : List Nat) (restriction : Restriction) (rank : Nat) (name : String) :
    Bool :=
  ignored.contains rank || restriction.allows name

/-- The patterns from the rank given on, tried at an offset: the winner, if there is one, and the
ranks of the patterns tried. -/
def firstMatch (ignored : List Nat) (restriction : Restriction) (input : Subject) (pos : Nat) :
    Nat → List (Pattern engine options) → Except TokenError (Option Winner) × List Nat
  | _, [] => (.ok none, [])
  | rank, p :: rest =>
    if isEligible ignored restriction rank p.name then
      match p.extent? input pos with
      | .error e => (.error e, [rank])
      | .ok none => alsoTried rank (firstMatch ignored restriction input pos (rank + 1) rest)
      | .ok (some n) =>
        if ignored.contains rank && n == 0 then
          alsoTried rank (firstMatch ignored restriction input pos (rank + 1) rest)
        else (.ok (some ⟨rank, p.name, n⟩), [rank])
    else firstMatch ignored restriction input pos (rank + 1) rest

/-- A winner's match lies within the input, and it is not empty if the pattern is ignored. -/
theorem fits_of_firstMatch {ignored : List Nat} {restriction : Restriction} {input : Subject}
    {pos : Nat} {w : Winner} {patterns : List (Pattern engine options)} {rank : Nat}
    (h : (firstMatch ignored restriction input pos rank patterns).1 = .ok (some w)) :
    pos + w.length ≤ input.byteLength ∧ (ignored.contains w.rank = true → 0 < w.length) := by
  induction patterns generalizing rank with
  | nil => simp [firstMatch] at h
  | cons p rest ih =>
    rw [firstMatch] at h
    split at h
    · split at h
      · simp at h
      · exact ih h
      · rename_i n hn
        split at h
        · exact ih h
        · rename_i hempty
          obtain rfl : ⟨rank, p.name, n⟩ = w := by simpa using h
          refine ⟨Pattern.add_le_byteLength_of_extent? hn, fun hrank => ?_⟩
          rcases Nat.eq_zero_or_pos n with rfl | hpos
          · rw [show ignored.contains rank = true from hrank] at hempty
            exact absurd rfl hempty
          · exact hpos
    · exact ih h

/-- What the search for a token finds: the winner that is not ignored, if there is one, the
offset where the search ended, and the ranks of the patterns tried on the way. -/
structure Finding where
  winner : Except TokenError (Option Winner)
  offset : Nat
  tried : List Nat

/-- Search from an offset on, skipping matches of ignored patterns. -/
def find (patterns : List (Pattern engine options)) (ignored : List Nat) (restriction : Restriction)
    (input : Subject) (pos : Nat) : Finding :=
  match _h : firstMatch ignored restriction input pos 0 patterns with
  | (.ok (some w), tried) =>
    if _hw : ignored.contains w.rank = true then
      let rest := find patterns ignored restriction input (pos + w.length)
      { rest with tried := tried ++ rest.tried }
    else ⟨.ok (some w), pos, tried⟩
  | (outcome, tried) => ⟨outcome, pos, tried⟩
termination_by input.byteLength - pos
decreasing_by
  obtain ⟨hfits, hpos⟩ := fits_of_firstMatch (by rw [_h])
  have := hpos _hw
  omega

/-! ## Tokens -/

/-- The error for a scan that found nothing at the offset given. -/
def nothingFound (restriction : Restriction) (pos : Nat) : TokenError :=
  if restriction.isEmpty then .noMatch pos else .noMatchAmong pos restriction

/-- A token of the history, if it may be asked for under the restriction given. -/
def storedToken (entry : HistoryEntry) (index : Nat) (restriction : Restriction) :
    Except TokenError Token :=
  if restriction.isWithin entry.restriction then .ok entry.token
  else .error (.restrictionChanged index)

/-- Whether a token repeats the last one of the history. -/
def repeatsLast (s : Tokenizer) (t : Token) : Bool :=
  match s.history.getLast? with
  | some entry => entry.token.rank == t.rank && entry.token.range == t.range
  | none => false

/-- Scan a token at the cursor; `index` is the number it will have. A scan that finds the last
token once more has made no progress, and fails. -/
def advance (r : Lexicon engine options) (s : Tokenizer) (index : Nat) (restriction : Restriction) :
    Except TokenError Token × Tokenizer × Lexicon engine options :=
  let finding := find r.patterns s.ignored restriction s.input s.cursor
  let r := r.markAttempted finding.tried
  match finding.winner with
  | .error e => (.error e, { s with cursor := finding.offset }, r)
  | .ok none =>
    (.error (nothingFound restriction finding.offset), { s with cursor := finding.offset }, r)
  | .ok (some w) =>
    let token : Token := ⟨w.rank, w.name, ⟨finding.offset, finding.offset + w.length⟩⟩
    let s := { s with cursor := token.range.stop }
    if s.repeatsLast token then (.error (.noFurtherToken index), s, r)
    else (.ok token, { s with history := s.history ++ [⟨token, restriction⟩] }, r)

/-- The token with the index given: one of the history, or the next one, which is scanned. -/
def tokenAt (r : Lexicon engine options) (s : Tokenizer) (index : Nat) (restriction : Restriction) :
    Except TokenError Token × Tokenizer × Lexicon engine options :=
  match s.history[index]? with
  | some entry => (storedToken entry index restriction, s, r)
  | none =>
    if index = s.history.length then advance r s index restriction
    else (.error (.noFurtherToken index), s, r)

/-- The token behind the history. -/
def next (r : Lexicon engine options) (s : Tokenizer) (restriction : Restriction) :
    Except TokenError Token × Tokenizer × Lexicon engine options :=
  tokenAt r s s.history.length restriction

/-- Scan tokens up to the first error, which comes last, or up to the first token that satisfies
`stop`; at most `bound` of them. -/
def nextWhile (stop : Token → Bool) (restriction : Restriction) :
    Nat → Lexicon engine options → Tokenizer →
      List (Except TokenError Token) × Tokenizer × Lexicon engine options
  | 0, r, s => ([], s, r)
  | bound + 1, r, s =>
    match next r s restriction with
    | (.error e, s, r) => ([.error e], s, r)
    | (.ok t, s, r) =>
      if stop t then ([.ok t], s, r)
      else
        let (rest, s, r) := nextWhile stop restriction bound r s
        (.ok t :: rest, s, r)

/-- A number of tokens that no input exceeds under one restriction: all but the last take a byte
at least. -/
def tokenBound (s : Tokenizer) : Nat := s.input.byteLength + 2

/-- Scan tokens up to the first error, which comes last. -/
def nextAll (r : Lexicon engine options) (s : Tokenizer) (restriction : Restriction) :
    List (Except TokenError Token) × Tokenizer × Lexicon engine options :=
  nextWhile (fun _ => false) restriction s.tokenBound r s

/-! ## Going back -/

/-- Go back to where the token with the index given starts, and forget it and those behind it.
Going back to the first token means going back to the start of the input. An index beyond the
history changes nothing. -/
def returnTo (s : Tokenizer) (index : Nat) : Tokenizer :=
  match s.history[index]? with
  | some entry =>
    { s with
      cursor := if index = 0 then 0 else entry.token.range.start
      history := s.history.take index }
  | none => s

/-- Start over with another input. -/
def restart (s : Tokenizer) (input : Text) : Tokenizer :=
  { s with input := .ofText input, cursor := 0, history := [] }

/-! ## Showing -/

/-- The number of tokens shown. -/
def shownTokens : Nat := 10

/-- A token as it is shown: its start, its name and its text. -/
def renderToken (s : Tokenizer) (t : Token) : String :=
  "\n  (@" ++ toString t.range.start ++ ")  " ++ t.name ++ "  =  " ++
    String.ofList (Text.quote (s.textOf t))

/-- The last tokens of the history, a line for each. -/
def render (s : Tokenizer) : String :=
  if s.history.isEmpty then "None"
  else String.join ((s.tokens.drop (s.history.length - shownTokens)).map s.renderToken)

end Tokenizer

end SheetLex
