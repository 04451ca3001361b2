import SheetLex.Block.Splitter

/-!
# Blocks inside blocks

The body of a rule is a source of its own. `blockTree` lists the blocks of a source and, behind
each rule, the blocks of its body, one level deeper. `sourceContent` collects the characters of
the selectors in the same order.

Bodies are shorter than the sources they come from; both functions look into a body only if it
is, which makes them total without saying how blocks are found.
-/

set_option autoImplicit false

namespace SheetLex

/-- A block with its depth in the tree: `0` for the blocks of the source itself. -/
structure PlacedBlock where
  depth : Nat
  block : Block
deriving DecidableEq, Repr

/-- The same block, one level deeper. -/
def PlacedBlock.lower (p : PlacedBlock) : PlacedBlock := { p with depth := p.depth + 1 }

/-- The blocks of a source and of all bodies in it, each rule before the blocks of its body. -/
def blockTree (options : SplitOptions) (source : Text) : List PlacedBlock :=
  (splitBlocks source options).flatMap fun block =>
    ⟨0, block⟩ ::
      match block.body with
      | some body =>
        if body.length < source.length then (blockTree options body).map PlacedBlock.lower
        else []
      | none => []
termination_by source.length

/-- Whether a character counts as content: neither white space, nor a semicolon, a brace or a
hint mark. -/
def isContent (c : Char) : Bool :=
  !Unicode.isWhiteSpace c && c != ';' && c != '{' && c != '}' && c != hintMark

/-- The content characters of the selectors of a source: for each block those of its own
selector, and then those of its body. -/
def sourceContent (options : SplitOptions) (source : Text) : Text :=
  (splitBlocks source options).flatMap fun block =>
    block.selector.filter isContent ++
      match block.body with
      | some body => if body.length < source.length then sourceContent options body else []
      | none => []
termination_by source.length

end SheetLex
