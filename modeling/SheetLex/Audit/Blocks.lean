import SheetLex.Block.Tree

/-!
# Auditing the division into blocks

`auditBlocks` divides a source and, level by level, all bodies in it, and watches what every
division must satisfy: a pass ends, reports one open construct at most, and leaves the splitter
at the start; bodies are shorter than their sources; and a source without hint marks loses and
gains no content.
-/

set_option autoImplicit false

namespace SheetLex

/-- What a division into blocks can be found to violate. -/
inductive BlockFault where
  /-- A pass did not end in time. -/
  | endless
  /-- A pass reported more than one open construct. -/
  | severalErrors
  /-- A pass ended and left the splitter elsewhere than at the start. -/
  | notReset
  /-- A body is not shorter than its source. -/
  | bodyNotShorter
  /-- The blocks do not hold the content of the source. -/
  | contentChanged
deriving DecidableEq, Repr

/-- Ask for blocks up to the end of the pass, at most `bound` times. `errors` counts the reports
of open constructs so far. -/
def auditPass : Nat → Nat → Splitter → Except BlockFault (List Block)
  | 0, _, _ => .error .endless
  | bound + 1, errors, l =>
    let (block, l') := l.next
    if block.isEnd then
      if 1 < errors then .error .severalErrors
      else if l'.position ≠ 0 then .error .notReset
      else .ok []
    else do
      let rest ← auditPass bound (if block.error?.isSome then errors + 1 else errors) l'
      return block :: rest

/-- The content of a source, collected from all levels while every pass is watched. -/
def auditContent (options : SplitOptions) (source : Text) : Except BlockFault Text := do
  let blocks ← auditPass (Text.byteLength source + 3) 0 (.ofSource source options)
  let pieces ← blocks.mapM fun block => do
    match block.body with
    | some body =>
      if Text.byteLength body < Text.byteLength source then
        let inner ← auditContent options body
        return block.selector.filter isContent ++ inner
      else throw .bodyNotShorter
    | none => return block.selector.filter isContent
  return pieces.flatten
termination_by Text.byteLength source

/-- Watch the division of a source and of all bodies in it. -/
def auditBlocks (options : SplitOptions) (source : Text) : Except BlockFault Unit := do
  let content ← auditContent options source
  if source.contains hintMark then return ()
  else if content = source.filter isContent then return ()
  else throw .contentChanged

end SheetLex
