import SheetLex.Unicode.CodeSet

/-!
# Regular expressions

The abstract form of a pattern. Beside the regular operations it has what backtracking matchers
add: captures and references to them, looking ahead and behind, atomic groups, conditionals, and
the two ways to talk about the start of the match.

Three measures decide how an expression is matched. `Regex.minSize` is the least number of
characters it takes, `Regex.hasFixedSize` tells whether that is the only number, and
`Regex.isHard` whether it needs backtracking; an expression that is not hard is matched by an
automaton.
-/

set_option autoImplicit false

namespace SheetLex

/-- Conditions on a position that take no characters. -/
inductive Assertion where
  | textStart
  | textEnd
  | lineStart
  | lineEnd
  | wordBoundary
  | notWordBoundary
  | wordStart
  | wordEnd
deriving DecidableEq, Repr

/-- Whether an assertion speaks of words. -/
def Assertion.isAboutWords : Assertion → Bool
  | .wordBoundary | .notWordBoundary | .wordStart | .wordEnd => true
  | _ => false

/-- The two directions of a look-around. -/
inductive Direction where
  | ahead
  | behind
deriving DecidableEq, Repr

/-- Regular expressions. -/
inductive Regex where
  /-- The empty text. -/
  | empty
  /-- Any character, or any character but a line feed. -/
  | any (lineFeedToo : Bool)
  | assertion (a : Assertion)
  | literal (c : Char) (ignoreCase : Bool)
  /-- One character of a set. -/
  | set (s : CodeSet)
  | sequence (parts : List Regex)
  /-- The first part that leads to a match. -/
  | choice (parts : List Regex)
  | capture (group : Nat) (part : Regex)
  | look (direction : Direction) (negated : Bool) (part : Regex)
  /-- At least `least` and at most `most` times; greedy repetitions try more before fewer. -/
  | repetition (part : Regex) (least : Nat) (most : Option Nat) (greedy : Bool)
  /-- The text that a group captured. -/
  | reference (group : Nat)
  /-- The first match of the part, without going back into it. -/
  | atomic (part : Regex)
  /-- The match is reported as starting here. -/
  | matchStart
  /-- The position where the search started. -/
  | searchStart
  /-- Whether a group has taken part. -/
  | groupSet (group : Nat)
  /-- One part or the other, as the condition matches or not. -/
  | conditional (condition yes no : Regex)
deriving Repr, Inhabited

namespace Regex

/-- Whether the expression is `empty` itself. -/
def isEmpty : Regex → Bool
  | empty => true
  | _ => false

/-- Whether a quantifier may follow: not behind nothing, an assertion or a look-around. -/
def isRepeatable : Regex → Bool
  | empty | assertion _ | look .. => false
  | _ => true

/-! ## Sizes -/

/-- The least number of characters taken. A reference counts for none. -/
def minSize : Regex → Nat
  | any _ | literal .. | set _ => 1
  | sequence parts => sumSizes parts
  | choice parts => leastSize parts
  | capture _ part | atomic part => part.minSize
  | repetition part least .. => part.minSize * least
  | conditional condition yes no => condition.minSize + min yes.minSize no.minSize
  | empty | assertion _ | look .. | reference _ | matchStart | searchStart | groupSet _ => 0
where
  /-- The sum of the least sizes. -/
  sumSizes : List Regex → Nat
    | [] => 0
    | r :: rs => r.minSize + sumSizes rs
  /-- The least of the least sizes. -/
  leastSize : List Regex → Nat
    | [] => 0
    | [r] => r.minSize
    | r :: rs => min r.minSize (leastSize rs)

/-- Whether every match takes the same number of characters, as far as the form tells. -/
def hasFixedSize : Regex → Bool
  | sequence parts => allFixed parts
  | choice parts => allFixed parts && sameSizes parts
  | capture _ part | atomic part => part.hasFixedSize
  | repetition part least most _ => part.hasFixedSize && most == some least
  | conditional condition yes no =>
    condition.hasFixedSize && yes.hasFixedSize && no.hasFixedSize &&
      condition.minSize + yes.minSize == no.minSize
  | reference _ => false
  | _ => true
where
  /-- Whether all parts have a fixed size. -/
  allFixed : List Regex → Bool
    | [] => true
    | r :: rs => r.hasFixedSize && allFixed rs
  /-- Whether all parts have the same least size. -/
  sameSizes (parts : List Regex) : Bool :=
    match parts.map minSize with
    | [] => true
    | n :: ns => ns.all (· == n)

/-! ## Plain texts -/

/-- The text that the expression spells, if it is made of characters that match only as they
stand. -/
def fixedText? : Regex → Option (List Char)
  | literal c false => some [c]
  | sequence parts => fixedTexts? parts
  | _ => none
where
  /-- The texts of the parts, one behind the other. -/
  fixedTexts? : List Regex → Option (List Char)
    | [] => some []
    | r :: rs => do return (← r.fixedText?) ++ (← fixedTexts? rs)

/-! ## Hardness -/

/-- Whether the expression needs backtracking. `referenced` lists the groups that references and
conditionals name: a capture among them may have to be entered again. -/
def isHard (referenced : List Nat) : Regex → Bool
  | assertion a => a.isAboutWords
  | sequence parts | choice parts => anyHard parts
  | capture group part => referenced.contains group || part.isHard referenced
  | repetition part .. => part.isHard referenced
  | look .. | reference _ | atomic _ | matchStart | searchStart | groupSet _ | conditional .. =>
    true
  | empty | any _ | literal .. | set _ => false
where
  /-- Whether any part is hard. -/
  anyHard : List Regex → Bool
    | [] => false
    | r :: rs => r.isHard referenced || anyHard rs

end Regex

end SheetLex
