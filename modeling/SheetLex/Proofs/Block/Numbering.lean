import SheetLex.Proofs.Block.Annotation
import SheetLex.Proofs.Block.Calls
import SheetLex.Proofs.Block.Concatenation
import SheetLex.Proofs.Layout.Hint

/-!
# The line numbers of blocks

The blocks of a pass are numbered by the heads of their pieces, and by nothing else
(`map_line_report`): the first hint in the text of a declaration or before the brace of a rule counts
for that block, and a block without one has the number of the block before it
(`line_eq_of_getElem?`). Hints elsewhere are of no account. In the body of a rule they change the text
of the body only (`emptied_insert_hint`), and blank text that yields no block can be left out of the
source, with all the hints in it (`splitBlocks_of_blank`, `splitBlocks_of_blank_semicolon`).
-/

set_option autoImplicit false

namespace SheetLex

open Cutter Splitter

/-! ## Numbers of heads -/

/-- The line numbers that go with texts, one behind the other. A text has that of its first hint, or
else that of the text before it; the first of them comes behind the number given. -/
def numbering : Nat → List Text → List Nat
  | _, [] => []
  | line, head :: heads =>
    (condense head).line.getD line :: numbering ((condense head).line.getD line) heads

/-- The blocks that pieces yield are numbered by the heads of the pieces that are not silent. -/
theorem map_line_report (options : SplitOptions) (line : Nat) (ps : List Piece) :
    (report options line ps).map Block.line = numbering line ((visible ps).map Piece.head) := by
  induction ps generalizing line with
  | nil => rfl
  | cons p ps ih =>
    rw [report_cons, List.map_append]
    cases hp : p.isSilent with
    | true =>
      rw [visible_cons_of_isSilent hp, Piece.yield_of_isSilent hp]
      exact ih line
    | false =>
      rw [visible_cons_of_not_isSilent hp, Piece.yield_of_not_isSilent hp]
      exact congrArg (List.cons _) (ih _)

theorem getElem?_numbering (line : Nat) (heads : List Text) (i : Nat) :
    (numbering line heads)[i]? = heads[i]?.map fun head =>
      (condense head).line.getD (((numbering line heads).take i).getLast?.getD line) := by
  induction heads generalizing line i with
  | nil => rfl
  | cons head heads ih =>
    cases i with
    | zero => rfl
    | succ i =>
      rw [numbering, List.getElem?_cons_succ, List.getElem?_cons_succ, ih, List.take_succ_cons,
        List.getLast?_cons, Option.getD_some]

section Blocks

variable {source : Text} {options : SplitOptions}

/-- A block has the number of its own hint, or else that of the block before it. -/
theorem line_eq_of_getElem? {i : Nat} {p : Piece} {b : Block}
    (hp : (visible (pieces source))[i]? = some p) (hb : (splitBlocks source options)[i]? = some b) :
    b.line = p.hint?.getD (lastLine ((splitBlocks source options).take i)) := by
  have hlines : (splitBlocks source options).map Block.line =
      numbering 0 ((visible (pieces source)).map Piece.head) := by
    rw [splitBlocks_eq_report, map_line_report]
  have hnumber := getElem?_numbering 0 ((visible (pieces source)).map Piece.head) i
  rw [← hlines, List.getElem?_map, List.getElem?_map, hb, hp, ← List.map_take,
    List.getLast?_map] at hnumber
  exact Option.some.inj hnumber

/-! ## Hints in bodies -/

/-- The block without the text of its body. -/
def Block.emptied (b : Block) : Block := { b with body := b.body.map fun _ => [] }

theorem showsBlank_id : ShowsBlank fun t => t := fun _ _ h => congrArg isBlank h

/-- A hint in the body of a rule shows in the text of the body only. -/
theorem emptied_insert_hint {x digits y : Text} (hbody : InBody x)
    (hdigits : ∀ d ∈ digits, d.isDigit = true) (options : SplitOptions) :
    (splitBlocks (x ++ hintMark :: digits ++ y) options).map Block.emptied =
      (splitBlocks (x ++ y) options).map Block.emptied := by
  have hruns := runsOn_hint hdigits (Balance.after x)
  have hpieces : (pieces (x ++ hintMark :: digits ++ y)).map (Piece.view (fun t => t) fun _ => ()) =
      (pieces (x ++ [] ++ y)).map (Piece.view (fun t => t) fun _ => ()) := by
    have hnone : (Balance.after x).SparesAll [] := trivial
    apply view_pieces_congr showsBlank_id hruns.spares hnone hruns.readAll
    -- in a body, what is read joins the text of the body
    cases hplace : (({} : Cutter).after x).place with
    | outside p =>
      rw [inBody_iff, hplace] at hbody
      cases hbody
    | inside selector body => exact .inside rfl fun _ _ => rfl
  rw [List.append_nil] at hpieces
  rw [splitBlocks_eq_report, splitBlocks_eq_report]
  refine map_report_congr (R := fun line line' => line = line') showsBlank_id ?_ hpieces rfl
  rintro p q hview line line' rfl
  obtain ⟨hhead, hrest⟩ := Prod.mk.inj hview
  obtain ⟨hbodies, hcause⟩ := Prod.mk.inj hrest
  have hhint : p.hint? = q.hint? := congrArg (fun t => (condense t).line) hhead
  have hempty : p.body.map (fun _ => ([] : Text)) = q.body.map fun _ => [] := by
    have h := congrArg (Option.map fun _ => ([] : Text)) hbodies
    rwa [Option.map_map, Option.map_map] at h
  refine ⟨?_, by rw [hhint]⟩
  have hselector : (condense p.head).text = (condense q.head).text :=
    congrArg (fun t => (condense t).text) hhead
  simp only [Block.emptied, Piece.block, hhint, hselector, hcause, Option.map_map]
  exact congrArg _ hempty

/-! ## Hints in blank text -/

/-- Characters of blank text cut nothing, semicolons apart. -/
theorem spares_of_isBlank {m : Text} {c : Char} (h : isBlank m = true) (hc : c ∈ m)
    (hsemicolon : c ≠ ';') : Balance.free.Spares c ∧ Balance.free.read c = .free := by
  by_cases hdigit : c.isDigit = true
  · have hplain := Mark.of_isDigit hdigit
    exact ⟨Balance.spares_of_plain hplain _, Balance.read_of_plain hplain _⟩
  by_cases hblank : isBlankChar c = true
  · rw [isBlankChar, Bool.or_eq_true, Bool.or_eq_true, beq_iff_eq, beq_iff_eq, or_assoc] at hblank
    rcases hblank with hpadding | rfl | rfl
    · rcases Line.isPadding_cases hpadding with rfl | rfl | rfl | rfl
      · exact ⟨⟨fun _ => by decide, fun _ => by decide⟩, rfl⟩
      · exact ⟨⟨fun _ => by decide, fun _ => by decide⟩, rfl⟩
      · exact ⟨⟨fun _ => by decide, fun _ => by decide⟩, rfl⟩
      · exact absurd rfl hsemicolon
    · exact ⟨⟨fun _ => by decide, fun _ => by decide⟩, rfl⟩
    · exact ⟨⟨fun _ => by decide, fun _ => by decide⟩, rfl⟩
  · rw [isBlank_eq_false_of_mem hc (Bool.eq_false_iff.2 hdigit) (Bool.eq_false_iff.2 hblank)] at h
    cases h

/-- What follows a text that leaves no hint open is blank if all of it is. -/
theorem isBlank_of_append_right {s t : Text} (h : isBlank (s ++ t) = true)
    (hs : hintOpen false s = false) : isBlank t = true := by
  rw [isBlank_iff, withoutHintDigits_append, hs] at h
  rw [isBlank_iff]
  intro c hc
  exact h c (List.mem_append_right _ hc)

/-- Behind blank text nothing is open, and the pieces before are silent, each up to a semicolon. -/
theorem after_of_isBlank {m : Text} (h : isBlank m = true) :
    ∃ before p, m = before ++ p.text ∧ hintOpen false before = false ∧
      ({} : Cutter).after m = ⟨.free, .outside p⟩ ∧
      ∀ q ∈ ({} : Cutter).pieces m, q.isSilent = true := by
  induction m using List.reverseRecOn with
  | nil => exact ⟨[], {}, rfl, rfl, rfl, fun q hq => absurd hq List.not_mem_nil⟩
  | append_singleton m c ih =>
    obtain ⟨before, p, hm, hclosed, hafter, hsilent⟩ := ih (isBlank_of_append h)
    by_cases hc : c = ';'
    · -- the semicolon ends a silent piece, and the next one begins
      subst hc
      have hblank : isBlank p.text = true :=
        isBlank_of_append_right (hm ▸ isBlank_of_append h) hclosed
      have hread : (({} : Cutter).after m).read ';' =
          (some { head := p.text, closed := true }, {}) := by
        rw [hafter]
        exact read_semicolon rfl rfl
      refine ⟨m ++ [';'], {}, (List.append_nil _).symm, ?_, ?_, ?_⟩
      · exact hintOpen_append_singleton false m rfl (by decide)
      · rw [Cutter.after_concat, hread]
      · intro q hq
        rw [Cutter.pieces_append, Cutter.pieces_cons, hread] at hq
        rcases List.mem_append.1 hq with hq | hq
        · exact hsilent q hq
        · obtain rfl := List.mem_singleton.1 hq
          exact hblank
    · obtain ⟨hspares, hfree⟩ := spares_of_isBlank h List.mem_concat_self hc
      have hread : (({} : Cutter).after m).read c = (none, ⟨.free, .outside (p.next .free c)⟩) := by
        rw [hafter, read_of_spares hspares, hfree]
        rfl
      refine ⟨before, p.next .free c, ?_, hclosed, ?_, ?_⟩
      · rw [hm, Pending.text_next, List.append_assoc]
      · rw [Cutter.after_concat, hread]
      · intro q hq
        rw [Cutter.pieces_append, Cutter.pieces_cons, hread] at hq
        exact hsilent q (by simpa using hq)

/-- Silent pieces can be left out. -/
theorem report_append_of_silent {ps : List Piece} (h : ∀ p ∈ ps, p.isSilent = true) (line : Nat)
    (qs : List Piece) : report options line (ps ++ qs) = report options line qs := by
  induction ps with
  | nil => rfl
  | cons p ps ih =>
    rw [List.cons_append, report_cons, Piece.yield_of_isSilent (h p List.mem_cons_self)]
    exact ih fun q hq => h q (List.mem_cons_of_mem p hq)

variable {x m : Text}

/-- Blank text behind the last block can be left out. -/
theorem splitBlocks_of_blank (hx : ({} : Cutter).after x = {}) (hm : isBlank m = true) :
    splitBlocks (x ++ m) options = splitBlocks x options := by
  obtain ⟨before, p, hsplit, hclosed, hafter, hsilent⟩ := after_of_isBlank hm
  have hblank : isBlank p.text = true := isBlank_of_append_right (hsplit ▸ hm) hclosed
  have hall : ∀ q ∈ ({} : Cutter).allPieces m, q.isSilent = true := by
    intro q hq
    rcases List.mem_append.1 hq with hq | hq
    · exact hsilent q hq
    · obtain rfl := List.mem_singleton.1 hq
      rw [hafter]
      exact hblank
  have hx' : splitBlocks x options = report options 0 (({} : Cutter).pieces x) := by
    rw [splitBlocks_eq_report, pieces, Cutter.allPieces, hx, report_append]
    exact List.append_nil _
  have hnone : report options (lineBehind 0 (({} : Cutter).pieces x)) (pieces m) = [] := by
    rw [pieces, ← List.append_nil (({} : Cutter).allPieces m), report_append_of_silent hall]
    rfl
  rw [splitBlocks_eq_report, pieces_append_of_after hx, report_append, hnone, List.append_nil, hx']

/-- Between blocks, blank text up to a semicolon can be left out. -/
theorem splitBlocks_of_blank_semicolon (hx : ({} : Cutter).after x = {}) (hm : isBlank m = true)
    (y : Text) : splitBlocks (x ++ m ++ ';' :: y) options = splitBlocks (x ++ y) options := by
  obtain ⟨before, p, hsplit, hclosed, hafter, hsilent⟩ := after_of_isBlank hm
  have hblank : isBlank p.text = true := isBlank_of_append_right (hsplit ▸ hm) hclosed
  have hread : (({} : Cutter).after m).read ';' = (some { head := p.text, closed := true }, {}) := by
    rw [hafter]
    exact read_semicolon rfl rfl
  have hpieces : pieces (m ++ ';' :: y) =
      (({} : Cutter).pieces m ++ [{ head := p.text, closed := true }]) ++ pieces y := by
    rw [pieces, Cutter.allPieces_append, Cutter.allPieces_cons, hread, List.append_assoc]
    rfl
  have hall : ∀ q ∈ ({} : Cutter).pieces m ++ [{ head := p.text, closed := true }],
      q.isSilent = true := by
    intro q hq
    rcases List.mem_append.1 hq with hq | hq
    · exact hsilent q hq
    · obtain rfl := List.mem_singleton.1 hq
      exact hblank
  rw [splitBlocks_eq_report, splitBlocks_eq_report, List.append_assoc, pieces_append_of_after hx,
    pieces_append_of_after hx, hpieces, report_append, report_append_of_silent hall, report_append]

/-! ## Numbers of blocks -/

/-- In a pass over a source, the number of a block is that of the first hint in the text of its
declaration or before the brace of its rule, or else that of the block before it, `0` for the first.
The end block has the number of the last one, and leaves the splitter at number `0`. A hint put
into the body of a rule shows in the text of that body only, and blank text between blocks or behind
the last of them could be missing, whatever hints it holds. -/
theorem splitBlocks_numbered (source : Text) (options : SplitOptions) :
    let bs := splitBlocks source options
    let ps := visible (pieces source)
    let l := Splitter.ofSource source options
    (Tiling source (pieces source) ∧ bs.length = ps.length ∧
      ∀ i p, ps[i]? = some p → ∃ b, bs[i]? = some b ∧ l.answer i = b ∧ Describes options p b ∧
        (∀ n, FirstHint p.head n → b.line = n) ∧
        (Unhinted p.head → b.line = lastLine (bs.take i))) ∧
    (l.answer bs.length = Block.finish (lastLine bs) ∧ (l.behind (bs.length + 1)).line = 0) ∧
    (∀ x y digits, source = x ++ y → InBody x → (∀ d ∈ digits, d.isDigit = true) →
      (splitBlocks (x ++ hintMark :: digits ++ y) options).map Block.emptied =
        bs.map Block.emptied) ∧
    ∀ x m, (x = [] ∨ EndsBlock options x) → isBlank m = true →
      (source = x ++ m → bs = splitBlocks x options) ∧
        ∀ y, source = x ++ m ++ ';' :: y → bs = splitBlocks (x ++ y) options := by
  intro bs ps l
  have hdescribes : List.Forall₂ (Describes options) ps bs := by
    simp only [bs, splitBlocks_eq_report]
    exact forall₂_describes options 0 (pieces source)
  have hpass : Pass source options {} bs (lineBehind 0 (pieces source)) := by
    simp only [bs, splitBlocks_eq_report]
    exact pass_pieces source options
  refine ⟨⟨tiling_pieces source, hdescribes.length_eq.symm, ?_⟩, ⟨?_, ?_⟩, ?_, ?_⟩
  · intro i p hp
    obtain ⟨hi, hget⟩ := List.getElem?_eq_some_iff.1 hp
    have hlt : i < bs.length := hdescribes.length_eq ▸ hi
    have hb : bs[i]? = some bs[i] := List.getElem?_eq_getElem hlt
    have hline := line_eq_of_getElem? hp hb
    refine ⟨_, hb, (hpass.answer_of_getElem? hb).1, ?_, ?_, ?_⟩
    · rw [← hget]
      exact hdescribes.get hi hlt
    · intro n hn
      rw [hline, Piece.hint?, line_condense_eq_some_iff.2 hn, Option.getD_some]
    · intro hnone
      rw [hline, Piece.hint?, line_condense_eq_none_iff.2 hnone, Option.getD_none]
  · have hlast : lineBehind 0 (pieces source) = lastLine bs := by
      rw [lineBehind_eq options, ← splitBlocks_eq_report]
      rfl
    rw [← hlast]
    exact hpass.answer_length
  · exact congrArg Splitter.line hpass.behind_length
  · rintro x y digits rfl hbody hdigits
    exact emptied_insert_hint hbody hdigits options
  · intro x m hx hm
    have hstart : ({} : Cutter).after x = {} := by
      rcases hx with rfl | hends
      · rfl
      · exact after_of_endsBlock hends
    constructor
    · rintro rfl
      exact splitBlocks_of_blank hstart hm
    · rintro y rfl
      exact splitBlocks_of_blank_semicolon hstart hm y

/-- A declaration with a hint, blank text with another one, and a rule without a hint of its own. A
hint in the body of the rule would be of no account either. -/
theorem splitBlocks_numbered_rule :
    let a : Text := [hintMark, '3', 'a', ';']
    let source : Text := a ++ [hintMark, '9'] ++ ';' :: ['b', '{', 'c', '}']
    let x : Text := a ++ [hintMark, '9', ';', 'b', '{']
    let l := Splitter.ofSource source {}
    FirstHint [hintMark, '3', 'a'] 3 ∧ Unhinted ['b'] ∧ InBody x ∧ EndsBlock {} a ∧
      isBlank [hintMark, '9'] = true ∧
      (l.answer 0).line = 3 ∧ (l.answer 1).line = 3 ∧ l.answer 2 = Block.finish 3 ∧
      (splitBlocks (x ++ hintMark :: ['4'] ++ ['c', '}']) {}).map Block.emptied =
        (splitBlocks source {}).map Block.emptied ∧
      splitBlocks source {} = splitBlocks (a ++ ['b', '{', 'c', '}']) {} := by
  intro a source x l
  have hfirst : FirstHint [hintMark, '3', 'a'] 3 := line_condense_eq_some_iff.1 (by decide +kernel)
  have hnone : Unhinted ['b'] := line_condense_eq_none_iff.1 (by decide +kernel)
  have hbody : InBody x := by decide +kernel
  have hends : EndsBlock {} a := .semicolon [hintMark, '3', 'a'] rfl (by decide +kernel)
  have hblank : isBlank [hintMark, '9'] = true := by decide +kernel
  have hdigit : ∀ d ∈ ['4'], d.isDigit = true := by
    intro d hd
    obtain rfl := List.mem_singleton.1 hd
    rfl
  have hblocks : splitBlocks source {} =
      [⟨.complete, 3, ['a'], none⟩, ⟨.complete, 3, ['b'], some ['c']⟩] := by decide +kernel
  obtain ⟨⟨-, -, hnumbers⟩, ⟨hend, -⟩, hinsert, hdrop⟩ := splitBlocks_numbered source {}
  rw [hblocks] at hend
  obtain ⟨b, -, hb, -, hline, -⟩ :=
    hnumbers 0 { head := [hintMark, '3', 'a'], closed := true } (by decide +kernel)
  obtain ⟨b', -, hb', -, -, hline'⟩ :=
    hnumbers 1 { head := ['b'], body := some ['c'], closed := true } (by decide +kernel)
  have hbefore := hline' hnone
  rw [hblocks] at hbefore
  exact ⟨hfirst, hnone, hbody, hends, hblank, (congrArg Block.line hb).trans (hline 3 hfirst),
    (congrArg Block.line hb').trans hbefore, hend, hinsert x ['c', '}'] ['4'] rfl hbody hdigit,
    (hdrop a [hintMark, '9'] (.inr hends) hblank).2 _ rfl⟩

end Blocks

end SheetLex
