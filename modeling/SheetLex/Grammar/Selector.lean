import SheetLex.Block.Tree
import SheetLex.Token.Tokenizer

/-!
# Tokens of selectors

`tokenizeSelectors` divides a source into blocks and scans the selector of each, all with one
lexicon.
-/

set_option autoImplicit false

namespace SheetLex

/-- A block with the outcome of scanning its selector. -/
structure TokenizedBlock where
  place : PlacedBlock
  /-- The tokens, and the error that ended the scan, if one did. -/
  tokens : List (Except TokenError Token)

variable {engine : RegexEngine} {options : MatchOptions}

/-- Scan the selectors of blocks, each up to the first error or the first token with the name
`stop`. -/
def tokenizeEach (ignored : List String) (stop : Option String) :
    Lexicon engine options → List PlacedBlock → List TokenizedBlock
  | _, [] => []
  | r, place :: rest =>
    let tokenizer := Tokenizer.ofInput r ignored place.block.selector
    let (tokens, _, r) :=
      Tokenizer.nextWhile (fun t => stop == some t.name) [] tokenizer.tokenBound r tokenizer
    ⟨place, tokens⟩ :: tokenizeEach ignored stop r rest

/-- Divide a source into blocks and scan their selectors. -/
def tokenizeSelectors (r : Lexicon engine options) (ignored : List String) (stop : Option String)
    (source : Text) : List TokenizedBlock :=
  tokenizeEach ignored stop r (blockTree {} source)

end SheetLex
