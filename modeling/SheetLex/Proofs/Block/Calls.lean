import SheetLex.Proofs.Block.Inheritance
import Mathlib.Dynamics.PeriodicPts.Defs

/-!
# Calling a splitter again and again

`Splitter.behind` is a splitter after a number of calls of `next`, and `Splitter.answer` what the
call behind them gives. The calls run through the blocks of a pass one by one, give the end block
behind the last of them, and leave the splitter as it was at first (`Pass.behind_length`); since a
splitter is a value, it then answers as it did before, pass for pass (`answer_of_behind_eq`).

Up to the end block a call never moves the cursor back: characters are read forwards, and what the
end of the source hands out is handed out with the cursor at the end (`position_le_next`).
-/

set_option autoImplicit false

namespace SheetLex

namespace Splitter

/-! ## Repeated calls -/

/-- The splitter behind so many calls of `next`. -/
def behind (l : Splitter) (n : Nat) : Splitter := (fun l => l.next.2)^[n] l

/-- What the call of `next` behind so many others gives. -/
def answer (l : Splitter) (n : Nat) : Block := (l.behind n).next.1

section Calls

variable {l l' : Splitter} {b : Block}

theorem behind_succ (l : Splitter) (n : Nat) : l.behind (n + 1) = (l.behind n).next.2 :=
  Function.iterate_succ_apply' _ n l

theorem behind_succ_of_next (h : l.next = (b, l')) (n : Nat) :
    l.behind (n + 1) = l'.behind n := by
  rw [behind, Function.iterate_succ_apply, h]
  rfl

theorem answer_succ_of_next (h : l.next = (b, l')) (n : Nat) :
    l.answer (n + 1) = l'.answer n := by
  rw [answer, behind_succ_of_next h, answer]

/-- A splitter that comes back to where it is goes on to answer as it did. -/
theorem answer_of_behind_eq {p : Nat} (h : l.behind p = l) (passes n : Nat) :
    l.answer (passes * p + n) = l.answer n := by
  have hperiod : Function.IsPeriodicPt (fun l => l.next.2) p l := h
  rw [answer, behind, Nat.add_comm, Function.iterate_add_apply, (hperiod.const_mul passes).eq]
  rfl

end Calls

/-! ## The calls of a pass -/

section Passes

variable {source : Text} {options : SplitOptions} {s : SplitterState} {bs : List Block}
variable {line : Nat}

theorem Pass.answer_of_getElem? (h : Pass source options s bs line) {i : Nat} {b : Block}
    (hb : bs[i]? = some b) : answer ⟨source, options, s⟩ i = b ∧ b.isEnd = false := by
  induction h generalizing i with
  | finish hnext => cases hb
  | block hnext hend hrest ih =>
    cases i with
    | zero =>
      obtain rfl := Option.some.inj hb
      exact ⟨congrArg Prod.fst hnext, hend⟩
    | succ i =>
      rw [answer_succ_of_next hnext]
      exact ih hb

theorem Pass.answer_length (h : Pass source options s bs line) :
    answer ⟨source, options, s⟩ bs.length = Block.finish line := by
  induction h with
  | finish hnext => exact congrArg Prod.fst hnext
  | block hnext hend hrest ih => exact (answer_succ_of_next hnext _).trans ih

/-- The end block leaves the splitter at its start. -/
theorem Pass.behind_length (h : Pass source options s bs line) :
    behind ⟨source, options, s⟩ (bs.length + 1) = ⟨source, options, {}⟩ := by
  induction h with
  | finish hnext => exact congrArg Prod.snd hnext
  | block hnext hend hrest ih => exact (behind_succ_of_next hnext _).trans ih

end Passes

/-- The pass over a source gives its blocks. -/
theorem pass_splitBlocks (source : Text) (options : SplitOptions) :
    ∃ line, Pass source options {} (splitBlocks source options) line := by
  rw [splitBlocks_eq_report]
  exact ⟨_, pass_pieces source options⟩

/-! ## The position -/

section Position

variable (source : Text) (options : SplitOptions)

theorem cursor_le_readOn (t : Text) (s : SplitterState) :
    s.cursor ≤ (readOn source options t s).2.cursor := by
  induction t generalizing s with
  | nil => exact Nat.le_refl _
  | cons c t ih =>
    have hcursor := cursor_readChar source options c s
    rw [readOn]
    cases hread : readChar source options c s with
    | mk block s' =>
      rw [hread] at hcursor
      have hstep : s.cursor ≤ s'.cursor := hcursor ▸ Nat.le_succ s.cursor
      cases block with
      | none => exact Nat.le_trans hstep (ih s')
      | some b => exact hstep

theorem cursor_recover (s : SplitterState) :
    (recover source options s).2.cursor = s.cursor := by
  rw [recover]
  simp only
  generalize hclosed : (if 0 < s.depth then
      react source options .rightBrace { s with parens := 0, quote := none, depth := 1 }
        source.length
    else (none, { s with parens := 0, quote := none })) = closed
  have hcursor : closed.2.cursor = s.cursor := by
    rw [← hclosed]
    split
    · exact cursor_react source options _ _ _
    · rfl
  obtain ⟨block, s'⟩ := closed
  cases block with
  | some b => exact hcursor
  | none => exact (cursor_react source options _ _ _).trans hcursor

/-- At the end of the source, only the end block moves the cursor. -/
theorem cursor_conclude (s : SplitterState) (h : (conclude source options s).1.isEnd = false) :
    (conclude source options s).2.cursor = s.cursor := by
  rw [conclude] at h ⊢
  cases hopen : s.openConstruct? with
  | some cause => exact cursor_recover source options s
  | none =>
    rw [hopen] at h
    simp only at h ⊢
    generalize hpending : (if s.selector < source.length then
        react source options .sourceEnd { s with selector := source.length } source.length
      else (none, s)) = pending at h ⊢
    have hcursor : pending.2.cursor = s.cursor := by
      rw [← hpending]
      split
      · exact cursor_react source options _ _ _
      · rfl
    obtain ⟨block, s'⟩ := pending
    cases block with
    | some b => exact hcursor
    | none => cases h

end Position

/-- A call that gives no end block does not go back. -/
theorem position_le_next {l : Splitter} (h : l.next.1.isEnd = false) :
    l.position ≤ l.next.2.position := by
  obtain ⟨source, options, s⟩ := l
  have hread := cursor_le_readOn source options (source.drop s.cursor) s
  -- what the call does to the cursor
  have hcursor : s.cursor ≤ (next ⟨source, options, s⟩).2.state.cursor := by
    rw [next] at h ⊢
    simp only at h ⊢
    generalize readOn source options (source.drop s.cursor) s = answer at h hread ⊢
    obtain ⟨block, s'⟩ := answer
    cases block with
    | some b => exact hread
    | none => exact Nat.le_trans hread (Nat.le_of_eq (cursor_conclude source options s' h).symm)
  have hsource : (next ⟨source, options, s⟩).2.source = source := by
    rw [next]
    simp only
    split <;> rfl
  rw [position, position, hsource]
  exact Text.byteLength_take_mono hcursor source

/-! ## Pass after pass -/

/-- The calls of `next` on a new splitter go in passes. A pass has a block for each semicolon and
each brace of the source at most, and one more, and behind them the end block. Up to the end block
the position does not go back, a block that reports an open construct is the last one, and the end
block leaves the splitter as it was at first, so that every later pass gives the same. -/
theorem calls_ofSource (source : Text) (options : SplitOptions) :
    let l := ofSource source options
    let count := (splitBlocks source options).length
    count ≤ source.countP isCut + 1 ∧
      (∀ i b, (splitBlocks source options)[i]? = some b → l.answer i = b) ∧
      (∀ i < count, (l.answer i).isEnd = false) ∧ (l.answer count).isEnd = true ∧
      (∀ i < count, (l.behind i).position ≤ (l.behind (i + 1)).position) ∧
      (∀ i < count, (l.answer i).error?.isSome = true → i + 1 = count) ∧
      l.behind (count + 1) = l ∧
      ∀ passes i, l.answer (passes * (count + 1) + i) = l.answer i := by
  intro l count
  obtain ⟨line, hpass⟩ := pass_splitBlocks source options
  have hblock {i : Nat} (hi : i < count) :
      l.answer i = (splitBlocks source options)[i] ∧ (l.answer i).isEnd = false := by
    obtain ⟨heq, hend⟩ := hpass.answer_of_getElem? (List.getElem?_eq_getElem hi)
    exact ⟨heq, heq ▸ hend⟩
  refine ⟨?_, fun i b hb => (hpass.answer_of_getElem? hb).1, fun i hi => (hblock hi).2, ?_, ?_, ?_,
    hpass.behind_length, answer_of_behind_eq hpass.behind_length⟩
  · change (splitBlocks source options).length ≤ _
    rw [splitBlocks_eq_report]
    exact Nat.le_trans (length_report_le options 0 (pieces source))
      (length_pieces_le_countP source)
  · exact congrArg Block.isEnd hpass.answer_length
  · intro i hi
    rw [behind_succ]
    exact position_le_next (hblock hi).2
  · intro i hi herror
    rw [(hblock hi).1] at herror
    exact (reports_after options source).succ_eq_length (List.getElem?_eq_getElem hi) herror

/-- A declaration, and a rule whose parenthesis and braces are left open: the report on the rule is
the last block of every pass. -/
theorem calls_ofSource_open :
    let l := ofSource ['a', ';', 'b', '{', '('] {}
    (l.answer 1).error? = some .parenthesis ∧ (l.answer 2).isEnd = true ∧
      (l.behind 1).position ≤ (l.behind 2).position ∧ l.behind 3 = l ∧
      ∀ passes, l.answer (passes * 3 + 1) = l.answer 1 := by
  intro l
  have hcount : (splitBlocks ['a', ';', 'b', '{', '('] {}).length = 2 := by decide +kernel
  have hcalls := calls_ofSource ['a', ';', 'b', '{', '('] {}
  simp only [hcount] at hcalls
  obtain ⟨-, -, -, hend, hposition, -, hback, hagain⟩ := hcalls
  exact ⟨by decide +kernel, hend, hposition 1 (by decide), hback, fun passes => hagain passes 1⟩

end Splitter

end SheetLex
