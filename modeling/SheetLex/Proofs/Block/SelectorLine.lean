import SheetLex.Proofs.Block.Numbering
import SheetLex.Proofs.Layout.LineNumbers

/-!
# The lines of selectors

In a source whose lines carry their numbers, the number of a block is that of the first line to begin
in the text of its declaration or before the brace of its rule, or else that of the block before it.
How far this is from the line on which its selector begins depends on how many lines begin in between
(`splitBlocks_selector_line`): there is no difference if exactly one does, and blank lines in front
of the selector make one (`line_ne_selector_line`).
-/

set_option autoImplicit false

namespace SheetLex

open Cutter

variable {source numbered : Text} {options : SplitOptions} {ps qs rs : List Piece} {p : Piece}
  {i : Nat} {b : Block}

/-! ## Pieces at an index -/

theorem exists_of_getElem?_visible (h : (visible ps)[i]? = some p) :
    ∃ qs rs, ps = qs ++ p :: rs ∧ (visible qs).length = i := by
  induction ps generalizing i with
  | nil => cases h
  | cons q ps ih =>
    cases hq : q.isSilent with
    | true =>
      rw [visible_cons_of_isSilent hq] at h
      obtain ⟨qs, rs, rfl, hlength⟩ := ih h
      exact ⟨q :: qs, rs, rfl, by rw [visible_cons_of_isSilent hq, hlength]⟩
    | false =>
      rw [visible_cons_of_not_isSilent hq] at h
      cases i with
      | zero =>
        obtain rfl := Option.some.inj h
        exact ⟨[], ps, rfl, rfl⟩
      | succ i =>
        obtain ⟨qs, rs, rfl, hlength⟩ := ih h
        refine ⟨q :: qs, rs, rfl, ?_⟩
        rw [visible_cons_of_not_isSilent hq, List.length_cons, hlength]

theorem getElem?_visible (hp : p.isSilent = false) :
    (visible (qs ++ p :: rs))[(visible qs).length]? = some p := by
  have hvisible : visible (qs ++ p :: rs) = visible qs ++ p :: visible rs := by
    rw [visible, List.filter_append, ← visible, ← visible, visible_cons_of_not_isSilent hp]
  rw [hvisible, List.getElem?_append_right (Nat.le_refl _), Nat.sub_self]
  rfl

/-- The piece of a block, with the pieces before it and behind it. -/
theorem exists_piece_of_getElem? (hb : (splitBlocks source options)[i]? = some b) :
    ∃ qs p rs, pieces source = qs ++ p :: rs ∧ (visible qs).length = i ∧ Describes options p b := by
  have hdescribes : List.Forall₂ (Describes options) (visible (pieces source))
      (splitBlocks source options) := by
    rw [splitBlocks_eq_report]
    exact forall₂_describes options 0 (pieces source)
  obtain ⟨hi, rfl⟩ := List.getElem?_eq_some_iff.1 hb
  have hlt : i < (visible (pieces source)).length := hdescribes.length_eq ▸ hi
  obtain ⟨qs, rs, hpieces, hindex⟩ := exists_of_getElem?_visible (List.getElem?_eq_getElem hlt)
  exact ⟨qs, _, rs, hpieces, hindex, hdescribes.get hlt hi⟩

/-! ## Hints at the ends of pieces -/

/-- Only the last piece of a source can leave a hint open. -/
theorem hintOpen_text_of_pieces_eq (h : pieces source = qs ++ p :: rs) :
    (∀ q ∈ qs, hintOpen false q.text = false) ∧ (rs ≠ [] → hintOpen false p.text = false) := by
  have hdrop : ({} : Cutter).pieces source = qs ++ (p :: rs).dropLast := by
    rw [← List.dropLast_append_of_ne_nil (List.cons_ne_nil p rs), ← h, pieces, allPieces,
      List.dropLast_concat]
  constructor
  · intro q hq
    have hmem : q ∈ ({} : Cutter).pieces source := hdrop ▸ List.mem_append_left _ hq
    exact hintOpen_text_of_mem_pieces hmem
  · intro hrs
    rw [List.dropLast_cons_of_ne_nil hrs] at hdrop
    have hmem : p ∈ ({} : Cutter).pieces source :=
      hdrop ▸ List.mem_append_right qs List.mem_cons_self
    exact hintOpen_text_of_mem_pieces hmem

theorem hintOpen_flatMap_text (h : ∀ q ∈ qs, hintOpen false q.text = false) :
    hintOpen false (qs.flatMap Piece.text) = false := by
  induction qs with
  | nil => rfl
  | cons q qs ih =>
    rw [List.flatMap_cons, hintOpen_append, h q List.mem_cons_self]
    exact ih fun q' hq' => h q' (List.mem_cons_of_mem q hq')

/-- Within a piece, no digit follows the head. -/
theorem Piece.exists_text_eq (p : Piece) :
    ∃ t, p.text = p.head ++ t ∧ ∀ d, t.head? = some d → d.isDigit = false := by
  rw [Piece.text]
  cases p.body with
  | some body => exact ⟨_, rfl, head?_cons_not_digit rfl _⟩
  | none =>
    refine ⟨_, rfl, ?_⟩
    cases p.closed with
    | true => exact head?_cons_not_digit rfl []
    | false =>
      intro d hd
      cases hd

/-- No hint goes on behind the head of a piece. -/
theorem exists_behind_head (h : pieces source = qs ++ p :: rs) :
    ∃ rest, source = qs.flatMap Piece.text ++ p.head ++ rest ∧
      (EndsInHint p.head → ∀ d, rest.head? = some d → d.isDigit = false) := by
  obtain ⟨t, htext, ht⟩ := p.exists_text_eq
  have hsource := flatMap_text_pieces source
  rw [h, List.flatMap_append, List.flatMap_cons, htext, List.append_assoc, ← List.append_assoc]
    at hsource
  refine ⟨t ++ rs.flatMap Piece.text, hsource.symm, ?_⟩
  intro hends
  cases t with
  | cons c t => exact head?_cons_not_digit (ht c rfl) _
  | nil =>
    -- the piece is all head, so it is the last one or leaves no hint open
    by_cases hrs : rs = []
    · subst hrs
      intro d hd
      cases hd
    · have hopen := (hintOpen_text_of_pieces_eq h).2 hrs
      rw [htext, List.append_nil, hintOpen_iff.2 hends] at hopen
      cases hopen

/-! ## Selectors of a numbered source -/

/-- Where the selector of a block begins, in the source with its lines numbered and in the source as
it was. -/
structure SelectorPlace (source numbered : Text) (options : SplitOptions) (i : Nat) (b : Block) where
  /-- The pieces before that of the block. -/
  before : List Piece
  /-- The piece of the block. -/
  piece : Piece
  /-- The pieces behind it. -/
  behind : List Piece
  pieces_eq : pieces numbered = before ++ piece :: behind
  index : (visible before).length = i
  describes : Describes options piece b
  /-- The blank text of the piece in front of the selector. -/
  lead : Text
  /-- The first character of the selector. -/
  first : Char
  /-- What follows it in the piece, up to a semicolon, a brace or the end. -/
  rest : Text
  head_eq : piece.head = lead ++ first :: rest
  isBlank_lead : isBlank lead = true
  head?_selector : b.selector.head? = some first
  /-- What stands before the first character of the selector in the source as it was. -/
  front : Text
  /-- What stands behind it. -/
  back : Text
  source_eq : source = front ++ first :: back
  front_eq : numberLines front = before.flatMap Piece.text ++ lead

namespace SelectorPlace

variable (place : SelectorPlace source numbered options i b)

/-- The line on which the selector begins. -/
def line : Nat := lineNumber place.front

/-- How many lines begin in the pieces before that of the block. -/
def linesBefore : Nat := (place.before.flatMap Piece.text).count hintMark

/-- How many lines begin in the piece of the block, up to the selector. -/
def linesAhead : Nat := place.lead.count hintMark

/-- A line begins in the piece of the block, the body of a rule apart, and its number is one that a
hint can give. -/
def BeginsLine : Prop := hintMark ∈ place.piece.head ∧ place.linesBefore < greatestLineNumber

/-- The lines that begin before a selector are those up to its own. -/
theorem line_eq (h : Numberable source) : place.line = place.linesBefore + place.linesAhead := by
  have hfront : hintMark ∉ place.front := by
    intro hmem
    apply h.mark
    rw [place.source_eq]
    exact List.mem_append_left _ hmem
  rw [line, ← count_numberLines hfront, place.front_eq, List.count_append]
  rfl

theorem getElem?_pieces : (visible (pieces numbered))[i]? = some place.piece := by
  have hsilent : place.piece.isSilent = false := by
    rw [Piece.isSilent, Bool.and_eq_false_iff]
    refine .inr (Bool.eq_false_iff.2 fun hblank => ?_)
    have hselector := place.head?_selector
    rw [place.describes.selector, (condense_text_eq_nil_iff _).2 hblank] at hselector
    cases hselector
  have hget : (visible (place.before ++ place.piece :: place.behind))[(visible place.before).length]? =
      some place.piece := getElem?_visible hsilent
  rwa [place.index, ← place.pieces_eq] at hget

/-- The piece of the block gives the number of the first line to begin in it. -/
theorem hint?_piece (h : IsNumbered source numbered) :
    (place.BeginsLine → place.piece.hint? = some (place.linesBefore + 1)) ∧
      (¬ place.BeginsLine → place.piece.hint? = none) := by
  obtain ⟨rest, hnumbered, hrest⟩ := exists_behind_head place.pieces_eq
  have hline := IsNumbered.line_condense (hnumbered ▸ h) hrest
  exact ⟨fun hbegins => hline.trans (if_pos hbegins), fun hnone => hline.trans (if_neg hnone)⟩

end SelectorPlace

/-- Every block with a selector has a place where it begins. -/
theorem exists_selectorPlace (h : IsNumbered source numbered)
    (hb : (splitBlocks numbered options)[i]? = some b) (hselector : b.selector ≠ []) :
    Nonempty (SelectorPlace source numbered options i b) := by
  obtain ⟨qs, p, rs, hpieces, hindex, hdescribes⟩ := exists_piece_of_getElem? hb
  -- the selector begins with the first character of the head that is neither blank nor in a hint
  obtain ⟨c, t, hselector⟩ := List.exists_cons_of_ne_nil hselector
  have hfirst : b.selector.head? = some c := congrArg List.head? hselector
  obtain ⟨hc, w, z, hhead, hblank, hdigit⟩ :=
    exists_first_of_condense (hdescribes.selector ▸ hfirst)
  have hfeed : c ≠ '\n' := by
    rintro rfl
    cases hc
  have hmark : c ≠ hintMark := by
    rintro rfl
    cases hc
  -- so it stands in the numbered source outside of hints as well
  obtain ⟨rest, hnumbered, -⟩ := exists_behind_head hpieces
  have hsplit : numbered = (qs.flatMap Piece.text ++ w) ++ c :: (z ++ rest) := by
    rw [hnumbered, hhead]
    simp
  have hends : c.isDigit = true → ¬ EndsInHint (qs.flatMap Piece.text ++ w) := by
    intro hc
    rw [← hintOpen_iff, hintOpen_append,
      hintOpen_flatMap_text (hintOpen_text_of_pieces_eq hpieces).1, hintOpen_iff]
    exact hdigit hc
  obtain ⟨x, y, hsource, hx⟩ := (hsplit ▸ h).exists_char hmark hfeed hends
  exact ⟨⟨qs, p, rs, hpieces, hindex, hdescribes, w, c, z, hhead, hblank, hfirst, x, y, hsource, hx⟩⟩

/-- In a source whose lines carry their numbers, every block with a selector has a place where the
selector begins, and wherever that is, the line of the selector is the last of those that begin before
it. The number of the block is that of the first line to begin in its own piece, before the selector
or further on, or else that of the block before it. So the number is that of the line of the selector
exactly if one line begins in the piece up to the selector and no more, or if none begins in the piece
at all and the block before it has this number. -/
theorem splitBlocks_selector_line (h : IsNumbered source numbered)
    (hb : (splitBlocks numbered options)[i]? = some b) (hselector : b.selector ≠ []) :
    let before := lastLine ((splitBlocks numbered options).take i)
    Nonempty (SelectorPlace source numbered options i b) ∧
      ∀ place : SelectorPlace source numbered options i b,
        place.line = place.linesBefore + place.linesAhead ∧
        (place.BeginsLine → b.line = place.linesBefore + 1) ∧
        (¬ place.BeginsLine → b.line = before) ∧
        (b.line = place.line ↔
          place.BeginsLine ∧ place.linesAhead = 1 ∨ ¬ place.BeginsLine ∧ before = place.line) := by
  intro before
  refine ⟨exists_selectorPlace h hb hselector, ?_⟩
  intro place
  have hown := place.line_eq h.numberable
  have hline := line_eq_of_getElem? place.getElem?_pieces hb
  obtain ⟨hfirst, hnone⟩ := place.hint?_piece h
  by_cases hbegins : place.BeginsLine
  · have hnumber : b.line = place.linesBefore + 1 := by
      rw [hline, hfirst hbegins, Option.getD_some]
    refine ⟨hown, fun _ => hnumber, fun hnot => absurd hbegins hnot, ?_⟩
    simp only [hbegins, true_and, not_true, false_and, or_false]
    omega
  · have hnumber : b.line = before := by rw [hline, hnone hbegins, Option.getD_none]
    refine ⟨hown, fun hyes => absurd hyes hbegins, fun _ => hnumber, ?_⟩
    simp only [hbegins, false_and, not_false_eq_true, true_and, false_or]
    rw [hnumber]

/-- A rule behind a blank line: its piece begins behind the declaration on the first line, so two lines
begin before its selector. -/
theorem splitBlocks_selector_line_rule :
    let source : Text := ['x', ';', '\n', '\n', 'b', '{', '\n', '}']
    let numbered := numberLines source
    let b : Block := ⟨.complete, 2, ['b'], some [hintMark, '4']⟩
    IsNumbered source numbered ∧ (splitBlocks numbered {})[1]? = some b ∧ b.selector ≠ [] ∧
      ∃ place : SelectorPlace source numbered {} 1 b, place.BeginsLine ∧ place.line = 3 ∧
        place.linesAhead = 2 ∧ place.line = place.linesBefore + place.linesAhead ∧
        b.line = place.linesBefore + 1 := by
  intro source numbered b
  have hnumbered : IsNumbered source numbered := ⟨by decide, .inl rfl⟩
  have hb : (splitBlocks numbered {})[1]? = some b := by decide +kernel
  have hselector : b.selector ≠ [] := List.cons_ne_nil 'b' []
  obtain ⟨place, hbegins, hline, hahead⟩ : ∃ place : SelectorPlace source numbered {} 1 b,
      place.BeginsLine ∧ place.line = 3 ∧ place.linesAhead = 2 := by
    refine ⟨{
      before := [{ head := [hintMark, '1', 'x'], closed := true }, { head := [] }]
      piece := {
        head := ['\n', hintMark, '2', '\n', hintMark, '3', 'b']
        body := some ['\n', hintMark, '4']
        closed := true }
      behind := [{ head := [] }]
      pieces_eq := by decide +kernel
      index := by decide +kernel
      describes := describes_block _ {} 0
      lead := ['\n', hintMark, '2', '\n', hintMark, '3']
      first := 'b'
      rest := []
      head_eq := rfl
      isBlank_lead := by decide +kernel
      head?_selector := rfl
      front := ['x', ';', '\n', '\n']
      back := ['{', '\n', '}']
      source_eq := rfl
      front_eq := by decide +kernel }, ⟨by decide, by decide⟩, rfl, rfl⟩
  obtain ⟨hown, hnumber, -, -⟩ := (splitBlocks_selector_line hnumbered hb hselector).2 place
  exact ⟨hnumbered, hb, hselector, place, hbegins, hline, hahead, hown, hnumber hbegins⟩

/-- The numbers of blocks need not be those of the lines on which their selectors begin. A blank line
in front of a selector begins in the piece of the block before the line of the selector does, and a
line that begins in the body of a rule counts for none of the blocks. -/
theorem line_ne_selector_line :
    let source : Text := ['\n', 'a', '{', '\n', '}', 'b', ';']
    Numberable source ∧
      splitBlocks (numberLines source) {} =
        [⟨.complete, 1, ['a'], some [hintMark, '3']⟩, ⟨.complete, 1, ['b'], none⟩] ∧
      (source = ['\n'] ++ 'a' :: ['{', '\n', '}', 'b', ';'] ∧ lineNumber ['\n'] = 2) ∧
      (source = ['\n', 'a', '{', '\n', '}'] ++ 'b' :: [';'] ∧
        lineNumber ['\n', 'a', '{', '\n', '}'] = 3) := by
  intro source
  exact ⟨by decide, by decide +kernel, ⟨rfl, rfl⟩, ⟨rfl, rfl⟩⟩

end SheetLex
