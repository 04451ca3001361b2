import SheetLex.Unicode.CaseFold
import SheetLex.Unicode.Property

/-!
# Character classes in brackets

The text between brackets is a small language of its own: characters and ranges, nested
brackets, named classes such as `[:alpha:]`, and the operators `&&`, `--` and `~~`, which bind
less tightly than standing side by side and group to the left.

`CharacterClass.read` evaluates such a text, given as tokens in which escapes are resolved, to
the set of characters it stands for.
-/

set_option autoImplicit false

namespace SheetLex

/-- The parts of a class text. -/
inductive ClassToken where
  /-- A character as it stands, which may have a meaning in the class language. -/
  | plain (c : Char)
  /-- A character that was escaped and stands for itself. -/
  | literal (c : Char)
  /-- An escape that stands for a set of characters. -/
  | set (s : CodeSet)
deriving DecidableEq, Repr

/-- The operators between parts of a class. -/
inductive ClassOperator where
  | intersection
  | difference
  | symmetricDifference
deriving DecidableEq, Repr

namespace CharacterClass

/-- The sets that named classes stand for; all of them are within ASCII. -/
def namedClass? : String → Option (List (Nat × Nat))
  | "alnum" => some [(0x30, 0x39), (0x41, 0x5A), (0x61, 0x7A)]
  | "alpha" => some [(0x41, 0x5A), (0x61, 0x7A)]
  | "ascii" => some [(0x0, 0x7F)]
  | "blank" => some [(0x9, 0x9), (0x20, 0x20)]
  | "cntrl" => some [(0x0, 0x1F), (0x7F, 0x7F)]
  | "digit" => some [(0x30, 0x39)]
  | "graph" => some [(0x21, 0x7E)]
  | "lower" => some [(0x61, 0x7A)]
  | "print" => some [(0x20, 0x7E)]
  | "punct" => some [(0x21, 0x2F), (0x3A, 0x40), (0x5B, 0x60), (0x7B, 0x7E)]
  | "space" => some [(0x9, 0xD), (0x20, 0x20)]
  | "upper" => some [(0x41, 0x5A)]
  | "word" => some [(0x30, 0x39), (0x41, 0x5A), (0x5F, 0x5F), (0x61, 0x7A)]
  | "xdigit" => some [(0x30, 0x39), (0x41, 0x46), (0x61, 0x66)]
  | _ => none

/-- The character of a plain token. -/
def plainChar? : ClassToken → Option Char
  | .plain c => some c
  | _ => none

/-- The character of a token that stands for one. -/
def tokenChar? : ClassToken → Option Char
  | .plain c | .literal c => some c
  | .set _ => none

/-- The plain characters at the start of a class text. -/
def plainPrefix (tokens : List ClassToken) : List Char :=
  (tokens.takeWhile fun t => (plainChar? t).isSome).filterMap plainChar?

/-- Read a named class behind its opening bracket: its set and what follows it. -/
def readNamed? (ignoreCase : Bool) (tokens : List ClassToken) :
    Option (CodeSet × List ClassToken) :=
  match tokens with
  | .plain ':' :: rest =>
    let negated := rest.head? == some (.plain '^')
    let rest := if negated then rest.drop 1 else rest
    let name := (plainPrefix rest).takeWhile (· != ':')
    match rest.drop name.length, namedClass? (String.ofList name) with
    | .plain ':' :: .plain ']' :: rest', some intervals =>
      let s := Unicode.closeUnderCaseIf ignoreCase (.ofIntervals intervals)
      some (s.complementIf negated, rest')
    | _, _ => none
  | _ => none

/-- Apply an operator. Both sides are closed under case first, if case is ignored. -/
def applyOperator (ignoreCase : Bool) (op : ClassOperator) (s t : CodeSet) : CodeSet :=
  let s := Unicode.closeUnderCaseIf ignoreCase s
  let t := Unicode.closeUnderCaseIf ignoreCase t
  match op with
  | .intersection => s.inter t
  | .difference => s.diff t
  | .symmetricDifference => s.symmDiff t

/-- Complete an operator that waits for its right side. -/
def applyPending (ignoreCase : Bool) (pending : Option (ClassOperator × CodeSet)) (s : CodeSet) :
    CodeSet :=
  match pending with
  | some (op, t) => applyOperator ignoreCase op t s
  | none => s

/-- Read the start of a bracket behind the bracket itself: whether the class is negated, and the
leading hyphens, or a leading closing bracket, which stand for themselves. -/
def readOpening (tokens : List ClassToken) : Bool × CodeSet × List ClassToken :=
  let negated := tokens.head? == some (.plain '^')
  let rest := if negated then tokens.drop 1 else tokens
  let hyphens := rest.takeWhile (· == .plain '-')
  if !hyphens.isEmpty then (negated, .singleton '-', rest.drop hyphens.length)
  else if rest.head? == some (.plain ']') then (negated, .singleton ']', rest.drop 1)
  else (negated, .empty, rest)

/-- Read a character, a range or an escaped set. A hyphen makes a range unless a bracket that
closes the class or another hyphen follows it. -/
def readItem? : List ClassToken → Option (CodeSet × List ClassToken)
  | [] => none
  | first :: rest =>
    let alone := match first with
      | .set s => s
      | .plain c | .literal c => .singleton c
    match rest with
    | .plain '-' :: .plain ']' :: _ | .plain '-' :: .plain '-' :: _ => some (alone, rest)
    | .plain '-' :: last :: rest' =>
      match tokenChar? first, tokenChar? last with
      | some low, some high => if low ≤ high then some (.range low high, rest') else none
      | _, _ => none
    | [.plain '-'] => none
    | _ => some (alone, rest)

/-- Read a class up to its closing bracket. `pending` is an operator that waits for its right
side, and `items` the union of what was read since. Each round takes a token at least, so the
number of tokens is enough for `fuel`. -/
def readItems (ignoreCase negated : Bool) :
    Nat → Option (ClassOperator × CodeSet) → CodeSet → List ClassToken →
      Option (CodeSet × List ClassToken)
  | 0, _, _, _ => none
  | fuel + 1, pending, items, tokens =>
    let operator op rest :=
      readItems ignoreCase negated fuel (some (op, applyPending ignoreCase pending items)) .empty
        rest
    match tokens with
    | .plain ']' :: rest =>
      let s := Unicode.closeUnderCaseIf ignoreCase (applyPending ignoreCase pending items)
      some (s.complementIf negated, rest)
    | .plain '[' :: rest =>
      match readNamed? ignoreCase rest with
      | some (s, rest') => readItems ignoreCase negated fuel pending (items.union s) rest'
      | none =>
        let (negated', items', rest') := readOpening rest
        match readItems ignoreCase negated' fuel none items' rest' with
        | some (s, rest'') => readItems ignoreCase negated fuel pending (items.union s) rest''
        | none => none
    | .plain '&' :: .plain '&' :: rest => operator .intersection rest
    | .plain '-' :: .plain '-' :: rest => operator .difference rest
    | .plain '~' :: .plain '~' :: rest => operator .symmetricDifference rest
    | _ =>
      match readItem? tokens with
      | some (s, rest) => readItems ignoreCase negated fuel pending (items.union s) rest
      | none => none

/-- The set that a class text stands for: the tokens behind the opening bracket, the closing one
included. -/
def read (ignoreCase : Bool) (tokens : List ClassToken) : Option CodeSet :=
  let (negated, items, rest) := readOpening tokens
  match readItems ignoreCase negated (tokens.length + 1) none items rest with
  | some (s, []) => some s
  | _ => none

end CharacterClass

end SheetLex
