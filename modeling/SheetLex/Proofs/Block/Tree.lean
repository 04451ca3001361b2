import SheetLex.Proofs.Block.Content

/-!
# The tree of blocks

The tree of a source holds the blocks of its pass, and behind each rule the tree of its body, one
level deeper (`blockTree_eq`). Bodies are shorter than their sources, so what holds of a source if
it holds of the bodies in it holds of every source (`body_induction`).
-/

set_option autoImplicit false

namespace SheetLex

/-- The tree of the body of a block; there is none without a body. -/
def bodyTree (options : SplitOptions) (b : Block) : List PlacedBlock :=
  (b.body.map (blockTree options)).getD []

theorem bodyTree_of_none (options : SplitOptions) {b : Block} (h : b.body = none) :
    bodyTree options b = [] := by
  rw [bodyTree, h]
  rfl

theorem bodyTree_of_some (options : SplitOptions) {b : Block} {body : Text}
    (h : b.body = some body) : bodyTree options b = blockTree options body := by
  rw [bodyTree, h]
  rfl

theorem mem_bodyTree {options : SplitOptions} {b : Block} {p : PlacedBlock} :
    p ∈ bodyTree options b ↔ ∃ body, b.body = some body ∧ p ∈ blockTree options body := by
  cases hbody : b.body with
  | none => simp [bodyTree_of_none options hbody]
  | some body => simp [bodyTree_of_some options hbody]

/-- The blocks of a source, each followed by the tree of its body. -/
theorem blockTree_eq (options : SplitOptions) (source : Text) :
    blockTree options source = (splitBlocks source options).flatMap fun b =>
      ⟨0, b⟩ :: (bodyTree options b).map PlacedBlock.lower := by
  rw [blockTree]
  apply List.flatMap_congr
  intro b hb
  cases hbody : b.body with
  | none => rw [bodyTree_of_none options hbody, List.map_nil]
  | some body =>
    rw [bodyTree_of_some options hbody]
    simp only [if_pos (length_body_lt hb hbody)]

/-- What holds of a source if it holds of the bodies of its blocks holds of every source. -/
theorem body_induction (options : SplitOptions) {P : Text → Prop}
    (h : ∀ source, (∀ b ∈ splitBlocks source options, ∀ body, b.body = some body → P body) →
      P source) (source : Text) : P source := by
  induction hlength : source.length using Nat.strong_induction_on generalizing source with
  | h n ih =>
    apply h
    intro b hb body hbody
    exact ih body.length (hlength ▸ length_body_lt hb hbody) body rfl

end SheetLex
