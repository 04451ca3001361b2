import SheetLex.Audit.Blocks
import SheetLex.Audit.Tokens
import SheetLex.Grammar.Declaration
import SheetLex.Grammar.Selector
import SheetLex.Text.Utf8
import SheetLex.Proofs.Block.Content
import SheetLex.Proofs.Block.Annotation
import SheetLex.Proofs.Block.Calls
import SheetLex.Proofs.Block.Concatenation
import SheetLex.Proofs.Block.Counting
import SheetLex.Proofs.Block.Inheritance
import SheetLex.Proofs.Block.Opacity
import SheetLex.Proofs.Block.Printing
import SheetLex.Proofs.Block.Relayout
import SheetLex.Proofs.Block.Trimming
import SheetLex.Proofs.Text.Encoding
import SheetLex.Proofs.Token.Compilation
import SheetLex.Proofs.Token.Failure
import SheetLex.Proofs.Token.Lossless
import SheetLex.Proofs.Token.Progress
import SheetLex.Proofs.Token.Recall
import SheetLex.Proofs.Token.Retracing
import SheetLex.Proofs.Token.Sharing
import SheetLex.Proofs.Token.Transparency
import SheetLex.Proofs.Token.Comparison
import SheetLex.Proofs.Token.Extension
import SheetLex.Proofs.Token.Irrelevance
import SheetLex.Proofs.Block.Bounds
import SheetLex.Proofs.Block.Bytewise
import SheetLex.Proofs.Block.Safety
import SheetLex.Proofs.Token.Repetition
import SheetLex.Proofs.Token.Narrowing
import SheetLex.Proofs.Token.Rearrangement
import SheetLex.Proofs.Token.Registration
import SheetLex.Proofs.Block.Selector
import SheetLex.Proofs.Token.Verdict
import SheetLex.Proofs.Block.Numbering
import SheetLex.Proofs.Block.Separation
import SheetLex.Proofs.Block.Substance
import SheetLex.Proofs.Layout.Joining
import SheetLex.Proofs.Layout.NormalForm
import SheetLex.Proofs.Layout.LineNumbers
import SheetLex.Proofs.Block.SelectorLine
