import SheetLex.Proofs.Block.Insertion
import SheetLex.Proofs.Layout.Hint

/-!
# Annotating a source with line numbers

Line-number hints at the starts of lines outside bodies change the line numbers of blocks and
nothing else (`splitBlocks_annotate`), whether they stand between blocks or inside a string, a pair
of parentheses or an interpolation, and whatever numbers they give.

The cutter reads a hint like any other text and puts it into the run. Condensing drops it again, the
mark as a break and the digits with the mark, unless more digits follow (`text_condense_hint`).
-/

set_option autoImplicit false

namespace SheetLex

/-- The hint with the digits given; none without digits. -/
def hintOf (digits : Text) : Text := if digits = [] then [] else hintMark :: digits

/-- The source with hints at the points where digits are given. A point is told by the text before
it. -/
def annotate (hints : Text → Text) (source : Text) : Text :=
  weave (fun before _ => hintOf (hints before)) source

/-- A hint with the digits given can be inserted at the point between the two parts of a source: at
the start of a line, outside bodies, and not in front of a digit. -/
structure TakesHint (before digits behind : Text) : Prop where
  startsLine : StartsLine before
  outside : ¬ InBody before
  isDigit : ∀ d ∈ digits, d.isDigit = true
  apart : ∀ d, behind.head? = some d → d.isDigit = false

/-- The block without its line number. -/
def Block.unnumbered (b : Block) : Block := { b with line := 0 }

/-- A hint at the start of the source, and one behind the first line. -/
example : annotate (fun x => if x = [] then ['7'] else if x = ['a', '\n'] then ['8'] else [])
    ['a', '\n', 'b'] = ['\x00', '7', 'a', '\n', '\x00', '8', 'b'] := by decide

/-! ## Hints in condensed texts -/

/-- At the start of a line, a hint does not show in the condensed form. -/
theorem text_condense_startsLine_hint {s digits t : Text} (hs : StartsLine s)
    (hdigits : ∀ d ∈ digits, d.isDigit = true)
    (ht : ∀ d, t.head? = some d → d.isDigit = false) :
    (condense (s ++ hintMark :: digits ++ t)).text = (condense (s ++ t)).text := by
  have hhint := text_condense_hint hdigits ht
  rcases hs with rfl | hfeed
  · exact hhint
  · obtain ⟨s, rfl⟩ := List.getLast?_eq_some_iff.1 hfeed
    have hleft := condense_append_feed s (hintMark :: digits ++ t)
    have hright := condense_append_feed s t
    rw [hhint, ← hright] at hleft
    simpa using hleft

/-! ## Reading hints -/

section Reading

variable {b : Balance} {c : Char} {m : Text}

theorem Mark.of_isDigit (h : c.isDigit = true) : Mark.of c = .plain :=
  Mark.of_eq_plain h rfl

theorem Balance.read_of_plain (h : Mark.of c = .plain) (b : Balance) : b.read c = b := by
  obtain ⟨quote, parens, depth⟩ := b
  cases quote <;> simp [read, h]

theorem Balance.spares_of_plain (h : Mark.of c = .plain) (b : Balance) : b.Spares c := by
  refine ⟨fun _ => ⟨?_, ?_⟩, fun _ => ?_⟩
  all_goals
    rintro rfl
    cases h

theorem Pending.next_of_plain (h : Mark.of c = .plain) (p : Pending) (b : Balance) :
    p.next b c = p.add c := by
  have habsorb : p.absorb b c = p.add c := if_neg (by simp [h])
  rw [next, h]
  split
  · exact habsorb
  · exact habsorb

/-- A hint mark and digits go to the run, and open and close nothing. -/
theorem runsOn_hint {digits : Text} (hdigits : ∀ d ∈ digits, d.isDigit = true) (b : Balance) :
    RunsOn b (hintMark :: digits) := by
  have hplain : ∀ c ∈ hintMark :: digits, Mark.of c = .plain := by
    intro c hc
    rcases List.mem_cons.1 hc with rfl | hc
    · rfl
    · exact Mark.of_isDigit (hdigits c hc)
  apply runsOn_of (P := fun _ => True)
  · exact fun _ _ => trivial
  · exact fun c hc => Balance.read_of_plain (hplain c hc) b
  · exact fun c hc => Balance.spares_of_plain (hplain c hc) b
  · exact fun c hc p _ => ⟨Pending.next_of_plain (hplain c hc) p b, trivial⟩

end Reading

/-! ## Blocks -/

section Blocks

variable {source : Text} {hints : Text → Text}

theorem showsBlank_text : ShowsBlank fun t => (condense t).text := by
  intro s t h
  have hempty : (condense s).isEmpty = (condense t).isEmpty := congrArg List.isEmpty h
  rw [condense_isEmpty, condense_isEmpty] at hempty
  exact hempty

/-- Sources have the same blocks, line numbers apart, if their pieces have the same bodies, and
heads with the same text when condensed. -/
theorem unnumbered_congr {source' : Text}
    (h : (pieces source).map (Piece.view (fun t => (condense t).text) id) =
      (pieces source').map (Piece.view (fun t => (condense t).text) id)) (options : SplitOptions) :
    (splitBlocks source options).map Block.unnumbered =
      (splitBlocks source' options).map Block.unnumbered := by
  rw [splitBlocks_eq_report, splitBlocks_eq_report]
  refine map_report_congr (R := fun _ _ => True) showsBlank_text ?_ h trivial
  intro p q hview line line' _
  obtain ⟨hhead, hrest⟩ := Prod.mk.inj hview
  obtain ⟨hbody, hcause⟩ := Prod.mk.inj hrest
  simp only [Option.map_id, id] at hbody
  refine ⟨?_, trivial⟩
  simp only [Block.unnumbered, Piece.block, hhead, hbody, hcause]

/-- A single hint. -/
theorem unnumbered_hint {x digits y : Text} (h : TakesHint x digits y) (options : SplitOptions) :
    (splitBlocks (x ++ hintMark :: digits ++ y) options).map Block.unnumbered =
      (splitBlocks (x ++ y) options).map Block.unnumbered := by
  apply unnumbered_congr
  apply view_pieces_insert showsBlank_text h.outside h.startsLine
  · exact runsOn_hint h.isDigit _
  · intro s hs t ht
    apply text_condense_startsLine_hint hs h.isDigit
    -- what is read behind the hint begins as the rest of the source does
    intro d hd
    obtain ⟨rest, rfl⟩ := ht
    apply h.apart d
    rw [List.head?_append, hd, Option.some_or]
  · intro hhash
    rcases List.mem_cons.1 hhash with hmark | hdigit
    · exact absurd hmark (by decide)
    · exact absurd (h.isDigit '#' hdigit) (by decide)

/-- Hints at any line starts outside bodies, none of them in front of a digit, leave the blocks of
the pass as they are, their line numbers apart. The numbers can be of any length. -/
theorem splitBlocks_annotate
    (h : ∀ x y, source = x ++ y → hints x ≠ [] → TakesHint x (hints x) y)
    (options : SplitOptions) :
    (splitBlocks (annotate hints source) options).map Block.unnumbered =
      (splitBlocks source options).map Block.unnumbered := by
  apply apply_weave (f := fun source => (splitBlocks source options).map Block.unnumbered)
  intro x y z hsource hhead
  by_cases hnone : hints x = []
  · rw [hintOf, if_pos hnone, List.append_nil]
  · have hplace := h x y hsource hnone
    rw [hintOf, if_neg hnone]
    apply unnumbered_hint
    refine ⟨hplace.startsLine, hplace.outside, hplace.isDigit, ?_⟩
    rw [hhead]
    exact hplace.apart

/-- A hint before a rule, one in a string of its selector, and one behind its body. -/
theorem splitBlocks_annotate_string :
    let source : Text := ['a', '"', '\n', '"', '{', '\n', '}', '\n']
    let hints : Text → Text := fun x =>
      if x = [] then ['7'] else if x = ['a', '"', '\n'] then ['0', '8'] else
        if x = source then ['9'] else []
    (∀ x y, source = x ++ y → hints x ≠ [] → TakesHint x (hints x) y) ∧
      (splitBlocks (annotate hints source) {}).map Block.unnumbered =
        (splitBlocks source {}).map Block.unnumbered := by
  intro source hints
  have htakes : ∀ x y, source = x ++ y → hints x ≠ [] → TakesHint x (hints x) y := by
    intro x y hsource hx
    by_cases hstart : x = []
    · subst hstart
      obtain rfl : source = y := hsource
      exact ⟨.inl rfl, by decide, List.all_eq_true.1 rfl, by simp [source]⟩
    by_cases hstring : x = ['a', '"', '\n']
    · subst hstring
      have hparts : ['a', '"', '\n'] ++ ['"', '{', '\n', '}', '\n'] = ['a', '"', '\n'] ++ y :=
        hsource
      obtain rfl := List.append_cancel_left hparts
      exact ⟨.inr rfl, by decide, List.all_eq_true.1 rfl, by simp⟩
    by_cases hend : x = source
    · subst hend
      obtain rfl : [] = y := List.append_cancel_left ((List.append_nil _).trans hsource)
      exact ⟨.inr rfl, by decide, List.all_eq_true.1 rfl, by simp⟩
    · exact absurd (by simp [hints, hstart, hstring, hend]) hx
  exact ⟨htakes, splitBlocks_annotate htakes {}⟩

end Blocks

end SheetLex
