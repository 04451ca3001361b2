/-!
# Sets of code points

A `CodeSet` is a finite union of intervals of code points. The intervals are kept in ascending
order and apart from each other, so membership can stop at the first interval that starts above
the code point asked for.

`CodeSet.ofIntervals` brings any list of intervals into that form; union, complement,
intersection and the two differences are computed on it.
-/

set_option autoImplicit false

namespace SheetLex

/-- A set of code points: intervals with both ends included, ascending and apart. -/
structure CodeSet where
  /-- First and last code point of each interval. -/
  intervals : List (Nat × Nat)
deriving DecidableEq, Repr, Inhabited

namespace CodeSet

/-- The greatest code point. -/
def lastCode : Nat := 0x10FFFF

/-- Membership in a list of ascending intervals. -/
def searchIntervals : List (Nat × Nat) → Nat → Bool
  | [], _ => false
  | (low, high) :: rest, n =>
    if n < low then false else if n ≤ high then true else searchIntervals rest n

/-- Whether the code point `n` lies in the set. -/
def containsCode (s : CodeSet) (n : Nat) : Bool := searchIntervals s.intervals n

/-- Whether the character lies in the set. -/
def contains (s : CodeSet) (c : Char) : Bool := s.containsCode c.toNat

/-! ## Building sets -/

/-- Join intervals that overlap or touch, in a list sorted by first code point. -/
def joinTouching : List (Nat × Nat) → List (Nat × Nat)
  | [] => []
  | (low, high) :: rest =>
    match joinTouching rest with
    | [] => [(low, high)]
    | (low', high') :: rest' =>
      if low' ≤ high + 1 then (low, max high high') :: rest'
      else (low, high) :: (low', high') :: rest'

/-- The union of the intervals given, in any order. An interval that ends before it starts
holds nothing. -/
def ofIntervals (is : List (Nat × Nat)) : CodeSet :=
  ⟨joinTouching ((is.filter fun i => i.1 ≤ i.2).mergeSort fun i j => i.1 ≤ j.1)⟩

/-- No code point. -/
def empty : CodeSet := ⟨[]⟩

/-- Every code point. -/
def all : CodeSet := ⟨[(0, lastCode)]⟩

/-- One character. -/
def singleton (c : Char) : CodeSet := ⟨[(c.toNat, c.toNat)]⟩

/-- The characters from `low` to `high`. -/
def range (low high : Char) : CodeSet := ofIntervals [(low.toNat, high.toNat)]

/-- The code points in one set or the other. -/
def union (s t : CodeSet) : CodeSet := ofIntervals (s.intervals ++ t.intervals)

/-- The gaps between ascending intervals, from `start` on. -/
def gaps (start : Nat) : List (Nat × Nat) → List (Nat × Nat)
  | [] => if start ≤ lastCode then [(start, lastCode)] else []
  | (low, high) :: rest =>
    if start < low then (start, low - 1) :: gaps (high + 1) rest else gaps (high + 1) rest

/-- The code points outside the set. -/
def complement (s : CodeSet) : CodeSet := ⟨gaps 0 s.intervals⟩

/-- The code points in both sets. -/
def inter (s t : CodeSet) : CodeSet := (s.complement.union t.complement).complement

/-- The code points of `s` outside `t`. -/
def diff (s t : CodeSet) : CodeSet := s.inter t.complement

/-- The code points in exactly one of the sets. -/
def symmDiff (s t : CodeSet) : CodeSet := (s.diff t).union (t.diff s)

/-- The set, or its complement. -/
def complementIf (negated : Bool) (s : CodeSet) : CodeSet := if negated then s.complement else s

end CodeSet

end SheetLex
