import SheetLex.Proofs.Block.Tiling

/-!
# Blocks of a concatenation

If the last character of a text ends a block (`EndsBlock`), the text can be divided apart from
whatever follows it: behind it the cutter is back at its start (`after_of_endsBlock`), so a run
over a concatenation is two runs. Only a line number reaches from the first text into the second.
It goes to the blocks of the second text up to the first one with a hint of its own
(`report_eq_inheritLine`).

The splitter is not back at its start there. Its positions have moved on and it has no tentative
start for a selector; that it goes on as a fresh one is what `Represents` says of both.
-/

set_option autoImplicit false

namespace SheetLex

open Splitter

/-! ## Ends of blocks -/

/-- The state of the splitter of a source behind a beginning of the source. -/
def Splitter.stateBehind (source : Text) (options : SplitOptions) (t : Text) : SplitterState :=
  t.foldl (fun s c => (readChar source options c s).2) {}

/-- The last character of a text ends a block. -/
inductive EndsBlock (options : SplitOptions) (u : Text) : Prop where
  /-- It is a semicolon, and nothing is open. -/
  | semicolon (x : Text) : u = x ++ [';'] → (stateBehind u options x).balance = .free →
      EndsBlock options u
  /-- It is the brace that closes a rule, not an interpolation. -/
  | brace (x : Text) : u = x ++ ['}'] → (stateBehind u options x).balance = { depth := 1 } →
      (stateBehind u options x).interpolation = false → EndsBlock options u

theorem Splitter.stateBehind_concat (source : Text) (options : SplitOptions) (t : Text)
    (c : Char) : stateBehind source options (t ++ [c]) =
      (readChar source options c (stateBehind source options t)).2 := List.foldl_append

/-- A splitter and a cutter that have read the same stand at the same point. -/
theorem represents_stateBehind (options : SplitOptions) {source x : Text} :
    ∀ {rest : Text}, source = x ++ rest →
      Represents source rest (stateBehind source options x) (({} : Cutter).after x) := by
  -- induction from the end, since the splitter reads on from where it is
  induction x using List.reverseRecOn with
  | nil =>
    intro rest hsource
    rw [show source = rest from hsource]
    exact represents_start rest
  | append_singleton x c ih =>
    intro rest hsource
    rw [stateBehind_concat, Cutter.after_concat]
    exact (represents_readChar options (ih (by simpa using hsource))).2

/-- Behind the end of a block, the cutter is back at its start. -/
theorem after_of_endsBlock {options : SplitOptions} {u : Text} (h : EndsBlock options u) :
    ({} : Cutter).after u = {} := by
  cases h with
  | semicolon x hu hbalance =>
    have hx := represents_stateBehind options hu
    have hfree := hx.balance.symm.trans hbalance
    obtain ⟨p, hp⟩ := hx.sound.exists_outside hfree
    rw [hu, Cutter.after_concat, Cutter.read_semicolon hp hfree]
  | brace x hu hbalance hinterpolation =>
    have hx := represents_stateBehind options hu
    have hdepth := hx.balance.symm.trans hbalance
    cases hp : (({} : Cutter).after x).place with
    | outside p =>
      -- outside rules, an open brace is that of an interpolation
      obtain ⟨before, -, -, hplace⟩ := hx.place
      rw [hp] at hplace
      have hpos : (stateBehind u options x).depth = 1 := congrArg Balance.depth hbalance
      rw [hplace.2, hpos] at hinterpolation
      exact absurd hinterpolation (by decide)
    | inside selector body => rw [hu, Cutter.after_concat, Cutter.read_rightBrace hp hdepth]

/-! ## Line numbers -/

/-- The line number of the last block; `0` if there is none. -/
def lastLine (bs : List Block) : Nat := (bs.getLast?.map Block.line).getD 0

/-- Give a line number to the first blocks. -/
def inheritLine (line n : Nat) (bs : List Block) : List Block :=
  ((bs.take n).map fun b => { b with line }) ++ bs.drop n

/-- The number of blocks before the first one with a hint of its own. -/
def hintless (ps : List Piece) : Nat := ((visible ps).takeWhile fun p => p.hint?.isNone).length

/-- The line number in force behind pieces is that of their last block. -/
theorem lineBehind_eq (options : SplitOptions) (line : Nat) (ps : List Piece) :
    lineBehind line ps = ((report options line ps).getLast?.map Block.line).getD line := by
  induction ps generalizing line with
  | nil => rfl
  | cons p ps ih =>
    rw [lineBehind_cons options, report_cons]
    cases hp : p.isSilent with
    | true =>
      rw [Piece.yield_of_isSilent hp]
      exact ih line
    | false =>
      rw [Piece.yield_of_not_isSilent hp, ih]
      simp only [Option.toList_some, List.singleton_append]
      rw [List.getLast?_cons]
      cases (report options (p.hint?.getD line) ps).getLast? <;> rfl

/-- The line number in force before pieces goes to their first blocks, up to the first hint. -/
theorem report_eq_inheritLine (options : SplitOptions) (line line' : Nat) (ps : List Piece) :
    report options line ps = inheritLine line (hintless ps) (report options line' ps) := by
  induction ps with
  | nil => rfl
  | cons p ps ih =>
    rw [report_cons, report_cons, hintless]
    cases hp : p.isSilent with
    | true =>
      rw [Piece.yield_of_isSilent hp, Piece.yield_of_isSilent hp, visible_cons_of_isSilent hp]
      exact ih
    | false =>
      rw [Piece.yield_of_not_isSilent hp, Piece.yield_of_not_isSilent hp,
        visible_cons_of_not_isSilent hp, List.takeWhile_cons]
      cases hhint : p.hint? with
      | none =>
        -- the block inherits its line number, and the search for a hint goes on
        have hblock : p.block options line = { p.block options line' with line } := by
          rw [Piece.block, Piece.block, hhint]
          rfl
        simp only [Option.isNone_none, Option.getD_none, if_true, Option.toList_some,
          List.singleton_append, List.length_cons]
        rw [inheritLine, List.take_succ_cons, List.drop_succ_cons, List.map_cons, List.cons_append,
          ← hblock]
        exact congrArg _ ih
      | some hint =>
        -- from the first hint on, the line number before the pieces plays no part
        have hblock : p.block options line = p.block options line' := by
          rw [Piece.block, Piece.block, hhint]
          rfl
        simp only [Option.isNone_some, Option.getD_some]
        rw [hblock]
        rfl

/-! ## Concatenation -/

/-- Where the cutter is back at its start, the pieces of what follows are those it has by itself. -/
theorem pieces_append_of_after {u : Text} (h : ({} : Cutter).after u = {}) (v : Text) :
    pieces (u ++ v) = ({} : Cutter).pieces u ++ pieces v := by
  rw [pieces, Cutter.allPieces_append, h]
  rfl

/-- The end of a block leaves nothing for a last piece. -/
theorem report_pieces_of_endsBlock {options : SplitOptions} {u : Text}
    (h : EndsBlock options u) :
    splitBlocks u options = report options 0 (({} : Cutter).pieces u) := by
  rw [splitBlocks_eq_report, pieces, Cutter.allPieces, report_append, after_of_endsBlock h]
  exact List.append_nil _

/-- If the last character of a text ends a block, the blocks of a concatenation are those of the
text followed by those of what is appended. Of the latter, which describe its pieces one by one,
the blocks before the first one with a hint of its own take the line number of the last block of
the text. -/
theorem splitBlocks_append {options : SplitOptions} {u : Text} (h : EndsBlock options u)
    (v : Text) :
    splitBlocks (u ++ v) options = splitBlocks u options ++
        inheritLine (lastLine (splitBlocks u options)) (hintless (pieces v))
          (splitBlocks v options) ∧
      List.Forall₂ (Describes options) (visible (pieces v)) (splitBlocks v options) ∧
      Tiling v (pieces v) := by
  refine ⟨?_, ?_, tiling_pieces v⟩
  · rw [report_pieces_of_endsBlock h, splitBlocks_eq_report, splitBlocks_eq_report,
      pieces_append_of_after (after_of_endsBlock h), report_append, lineBehind_eq options]
    exact congrArg _ (report_eq_inheritLine options _ 0 (pieces v))
  · rw [splitBlocks_eq_report]
    exact forall₂_describes options 0 (pieces v)

/-- A rule with a hint, and behind it two declarations of which the second has one. -/
theorem splitBlocks_append_rule :
    EndsBlock {} [hintMark, '4', ' ', 'a', '{', 'b', '}'] ∧
    splitBlocks ([hintMark, '4', ' ', 'a', '{', 'b', '}'] ++ ['c', ';', hintMark, '7', ' ', 'd']) {} =
      splitBlocks [hintMark, '4', ' ', 'a', '{', 'b', '}'] {} ++
        inheritLine (lastLine (splitBlocks [hintMark, '4', ' ', 'a', '{', 'b', '}'] {}))
          (hintless (pieces ['c', ';', hintMark, '7', ' ', 'd']))
          (splitBlocks ['c', ';', hintMark, '7', ' ', 'd'] {}) := by
  have hends : EndsBlock {} [hintMark, '4', ' ', 'a', '{', 'b', '}'] :=
    .brace [hintMark, '4', ' ', 'a', '{', 'b'] rfl (by decide) (by decide)
  exact ⟨hends, (splitBlocks_append hends _).1⟩

end SheetLex
