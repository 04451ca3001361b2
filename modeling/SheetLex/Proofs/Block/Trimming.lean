import SheetLex.Proofs.Block.Replacement
import SheetLex.Proofs.Block.Tree

/-!
# Trimming bodies

Whether bodies are handed out trimmed or as they stand makes no difference to the division of a
source, on any level (`blockTree_trimBody`): the trees are the same but for the white space at the
ends of bodies. From the second level on the two divisions read different texts, so this says that
white space at the ends of a source does not show in its blocks.

White space in front of a source goes to the first part of the pending text that there is
(`Pending.pad`). It is dropped when that part is condensed, so what is read behind it does not
depend on it (`Cutter.Alike.replaces`). White space behind a source ends no piece; it goes to the
last one. The white space must be of the kinds that condensing drops as well.
-/

set_option autoImplicit false

namespace SheetLex

/-! ## Pieces up to the margins of their bodies -/

/-- What a piece says when white space at the ends of its body does not count. -/
structure Gist where
  /-- The condensed form of the head. -/
  head : Condensed
  /-- The trimmed body. -/
  body : Option Text
  /-- The construct left open. -/
  cause : Option OpenConstruct

/-- What the piece says, its body trimmed. -/
def Piece.gist (p : Piece) : Gist := ⟨condense p.head, p.body.map Text.trim, p.cause⟩

/-- The block with its body trimmed. -/
def Block.trimBody (b : Block) : Block := { b with body := b.body.map Text.trim }

/-- The block with its body trimmed, at its place. -/
def PlacedBlock.trimBody (p : PlacedBlock) : PlacedBlock := { p with block := p.block.trimBody }

/-- Pieces say the same if they look the same, bodies without the white space at their ends. -/
theorem map_gist_eq_iff {ps qs : List Piece} :
    ps.map Piece.gist = qs.map Piece.gist ↔
      ps.map (Piece.view condense Text.trim) = qs.map (Piece.view condense Text.trim) := by
  constructor
  · intro h
    have hview := congrArg (List.map fun g : Gist => (g.head, g.body, g.cause)) h
    rw [List.map_map, List.map_map] at hview
    exact hview
  · intro h
    have hgist := congrArg (List.map fun v => (⟨v.1, v.2.1, v.2.2⟩ : Gist)) h
    rw [List.map_map, List.map_map] at hgist
    exact hgist

theorem report_trimBody {ps qs : List Piece} (h : ps.map Piece.gist = qs.map Piece.gist)
    (line : Nat) :
    report {} line qs = (report { rawBodies := true } line ps).map Block.trimBody := by
  rw [← List.map_id (report {} line qs)]
  symm
  refine map_report_congr (R := Eq) showsBlank_condense ?_ (map_gist_eq_iff.1 h) rfl
  rintro p q hview line _ rfl
  obtain ⟨hhead, hrest⟩ := Prod.mk.inj hview
  obtain ⟨hbody, hcause⟩ := Prod.mk.inj hrest
  have hhint : p.hint? = q.hint? := congrArg Condensed.line hhead
  -- a raw body that is trimmed is a body handed out trimmed
  have hraw : (p.body.map (SplitOptions.bodyText { rawBodies := true })).map Text.trim =
      q.body.map (SplitOptions.bodyText {}) := by
    rw [Option.map_map]
    exact hbody
  refine ⟨?_, by rw [hhint]⟩
  simp only [id, Block.trimBody, Piece.block, hhint, hhead, hcause, hraw]

/-! ## White space in front -/

namespace Pending

/-- The pending text with more in front of it: that goes to the first part that there is. -/
def pad (w : Text) (p : Pending) : Pending :=
  if p.lead = [] then
    if p.held = [] then { p with run := w ++ p.run } else { p with held := w ++ p.held }
  else { p with lead := w ++ p.lead }

section Parts

variable (w : Text) {p : Pending}

theorem pad_of_lead (hlead : p.lead ≠ []) : p.pad w = { p with lead := w ++ p.lead } :=
  if_neg hlead

theorem pad_of_held (hlead : p.lead = []) (hheld : p.held ≠ []) :
    p.pad w = { p with held := w ++ p.held } := by
  rw [pad, if_pos hlead, if_neg hheld]

theorem pad_of_run (hlead : p.lead = []) (hheld : p.held = []) :
    p.pad w = { p with run := w ++ p.run } := by
  rw [pad, if_pos hlead, if_pos hheld]

end Parts

@[simp] theorem text_pad (w : Text) (p : Pending) : (p.pad w).text = w ++ p.text := by
  by_cases hlead : p.lead = []
  · by_cases hheld : p.held = []
    · simp [pad_of_run w hlead hheld, text, hlead, hheld]
    · simp [pad_of_held w hlead hheld, text, hlead]
  · simp [pad_of_lead w hlead, text]

variable {w : Text}

section Margins

variable (hw : ∀ c ∈ w, isMargin c = true)

include hw

/-- What stands in front ends with no hash. -/
theorem getLast?_text_pad (p : Pending) :
    (p.pad w).text.getLast? = some '#' ↔ p.text.getLast? = some '#' := by
  rw [text_pad, List.getLast?_append]
  cases p.text.getLast? with
  | some c => rfl
  | none =>
    rw [Option.none_or]
    constructor
    · intro h
      exact absurd (hw '#' (List.mem_of_getLast? h)) (by decide)
    · intro h
      cases h

/-- Blank text in front makes no difference to what is read behind. -/
theorem replaces_pad (p : Pending) (rest : Text) : (p.pad w).Replaces condense rest p := by
  have hfront (s : Text) : Text.Agree condense rest (w ++ s) s := by
    intro b _
    rw [List.append_assoc]
    exact condense_append_left hw (s ++ b)
  have htext : Text.Agree condense rest (p.pad w).text p.text := by
    rw [text_pad]
    exact hfront p.text
  have hhash := getLast?_text_pad hw p
  by_cases hlead : p.lead = []
  · by_cases hheld : p.held = []
    · rw [pad_of_run w hlead hheld] at htext hhash ⊢
      refine ⟨rfl, rfl, fun _ => rfl, hfront p.run, ?_, htext, fun _ => hhash⟩
      rw [selector, selector, hheld]
      exact hfront p.run
    · rw [pad_of_held w hlead hheld] at htext hhash ⊢
      refine ⟨rfl, rfl, fun _ => ?_, .refl _, ?_, htext, fun _ => hhash⟩
      · rw [hlead]
        exact condense_append_left hw p.held
      · rw [selector, selector, List.append_assoc]
        exact hfront _
  · rw [pad_of_lead w hlead] at htext hhash ⊢
    refine ⟨rfl, condense_append_left hw p.lead, fun _ => ?_, .refl _, .refl _, htext,
      fun _ => hhash⟩
    rw [List.append_assoc]
    exact condense_append_left hw _

end Margins

end Pending

/-- Two places that differ in blank text in front of what is being read. -/
inductive Place.Alike : Place → Place → Prop where
  | outside {w : Text} {p : Pending} : (∀ c ∈ w, isMargin c = true) → p.Sound →
      Alike (.outside (p.pad w)) (.outside p)
  | inside {selector selector' : Text} (body : Text) : condense selector = condense selector' →
      Alike (.inside selector body) (.inside selector' body)

namespace Cutter

/-- Two cutters that differ in blank text in front of what they are reading. -/
structure Alike (k k' : Cutter) : Prop where
  balance : k.balance = k'.balance
  place : k.place.Alike k'.place

variable {k k' : Cutter}

theorem Alike.replaces (h : k.Alike k') (rest : Text) :
    k.Replaces condense Text.trim rest k' := by
  obtain ⟨balance, place⟩ := k
  obtain ⟨balance', place'⟩ := k'
  refine ⟨h.balance, ?_⟩
  cases h.place with
  | outside hw hp => exact .outside (Pending.replaces_pad hw _ rest)
  | inside body hselector => exact .inside hselector (.refl body)

/-- Blank text in front makes no difference to what pieces say. -/
theorem Alike.gist_allPieces (h : k.Alike k') (t : Text) :
    (k.allPieces t).map Piece.gist = (k'.allPieces t).map Piece.gist :=
  map_gist_eq_iff.2 ((h.replaces t).view_allPieces showsBlank_condense)

/-- A cutter at the start of a source reads blank text in front of it into the run. -/
theorem after_start_of_isWhiteSpace {w : Text} (hw : ∀ c ∈ w, isMargin c = true)
    (hspace : ∀ c ∈ w, Unicode.isWhiteSpace c = true) :
    ({} : Cutter).pieces w = [] ∧ ({} : Cutter).after w = ⟨.free, .outside { run := w }⟩ := by
  induction w using List.reverseRecOn with
  | nil => exact ⟨rfl, rfl⟩
  | append_singleton w c ih =>
    have hfront : ∀ d ∈ w, isMargin d = true := fun d hd => hw d (List.mem_append_left _ hd)
    obtain ⟨hpieces, hafter⟩ := ih hfront fun d hd => hspace d (List.mem_append_left _ hd)
    have hc : Unicode.isWhiteSpace c = true := hspace c (by simp)
    have hread : read ⟨.free, .outside { run := w }⟩ c =
        (none, ⟨.free, .outside { run := w ++ [c] }⟩) := by
      rw [read, readAt]
      simp only [Balance.read_of_isWhiteSpace hc]
      rw [Pending.read, if_pos rfl]
      rcases Balance.mark_of_isWhiteSpace hc with hmark | hmark
      · -- a line feed does not count behind a blank run
        rw [hmark, Pending.breakLine, if_pos (isBlank_of_isMargin hfront)]
        rfl
      · simp [hmark, Pending.absorb, Pending.add]
    rw [pieces_append, after_concat, hpieces, hafter, pieces_cons, hread]
    exact ⟨rfl, rfl⟩

/-! ## White space behind -/

/-- White space ends no piece; the text of the last piece, or its body, grows by it. -/
theorem read_of_isWhiteSpace {c : Char} (hc : isMargin c = true)
    (hspace : Unicode.isWhiteSpace c = true) (k : Cutter) :
    (k.read c).1 = none ∧ (k.read c).2.lastPiece.gist = k.lastPiece.gist := by
  have hstep := k.step_read c
  have hbalance : (k.read c).2.balance = k.balance := Balance.read_of_isWhiteSpace hspace k.balance
  obtain ⟨balance, place⟩ := k
  generalize read ⟨balance, place⟩ c = next at hstep hbalance ⊢
  obtain ⟨o, balance', place'⟩ := next
  simp only at hstep hbalance ⊢
  subst hbalance
  cases hstep with
  | declare p hp hfree hmark =>
    rw [hmark] at hspace
    exact absurd hspace (by decide)
  | openRule p hp hfree hmark hhash =>
    rw [hmark] at hspace
    exact absurd hspace (by decide)
  | closeRule selector body hp hopen hmark =>
    rw [hmark] at hspace
    exact absurd hspace (by decide)
  | grow p q hp htext hsound hfree =>
    obtain rfl : place = .outside p := hp
    refine ⟨rfl, ?_⟩
    rw [lastPiece, lastPiece, Piece.gist, Piece.gist]
    simp only [htext, condense_concat hc]
  | growBody selector body hp hopen =>
    obtain rfl : place = .inside selector body := hp
    refine ⟨rfl, ?_⟩
    rw [lastPiece, lastPiece, Piece.gist, Piece.gist]
    simp only [Option.map_some, Text.trim, Text.trimBy_concat hspace]

theorem gist_allPieces_of_isWhiteSpace {w : Text} (hw : ∀ c ∈ w, isMargin c = true)
    (hspace : ∀ c ∈ w, Unicode.isWhiteSpace c = true) (k : Cutter) :
    (k.allPieces w).map Piece.gist = [k.lastPiece.gist] := by
  induction w generalizing k with
  | nil => rfl
  | cons c w ih =>
    obtain ⟨hnone, hgist⟩ := read_of_isWhiteSpace (hw c List.mem_cons_self)
      (hspace c List.mem_cons_self) k
    rw [allPieces_cons, hnone, Option.toList_none, List.nil_append,
      ih (fun d hd => hw d (List.mem_cons_of_mem c hd))
        (fun d hd => hspace d (List.mem_cons_of_mem c hd)), hgist]

end Cutter

/-! ## Trimmed sources -/

/-- The pieces of a trimmed source say what those of the source say. -/
theorem gist_pieces_trim {source : Text}
    (h : ∀ c ∈ source, Unicode.isWhiteSpace c = true → isMargin c = true) :
    (pieces (Text.trim source)).map Piece.gist = (pieces source).map Piece.gist := by
  obtain ⟨front, back, hsource, hfront, hback⟩ := Text.exists_trimBy Unicode.isWhiteSpace source
  have hmem {c : Char} (hc : c ∈ front ∨ c ∈ back) : c ∈ source := by
    rw [hsource]
    rcases hc with hc | hc <;> simp [hc]
  have hfront' : ∀ c ∈ front, isMargin c = true := fun c hc => h c (hmem (.inl hc)) (hfront c hc)
  have hback' : ∀ c ∈ back, isMargin c = true := fun c hc => h c (hmem (.inr hc)) (hback c hc)
  obtain ⟨hpieces, hafter⟩ := Cutter.after_start_of_isWhiteSpace hfront' hfront
  -- behind the white space in front, the cutter is one at the start with that before its run
  have halike : (({} : Cutter).after front).Alike {} := by
    rw [hafter, ← List.append_nil front]
    exact ⟨rfl, .outside (p := {}) (by simpa using hfront') Pending.sound_empty⟩
  conv_rhs => rw [hsource]
  rw [List.append_assoc, pieces, pieces, Cutter.allPieces_append, hpieces, List.nil_append,
    halike.gist_allPieces, Cutter.allPieces_append, List.map_append,
    Cutter.gist_allPieces_of_isWhiteSpace hback' hback, Cutter.allPieces, List.map_append]
  rfl

/-- Trees of sources whose pieces say the same: with bodies to be trimmed, and as they stand. -/
theorem blockTree_of_gist {source : Text}
    (h : ∀ c ∈ source, Unicode.isWhiteSpace c = true → isMargin c = true) {other : Text}
    (hgist : (pieces source).map Piece.gist = (pieces other).map Piece.gist) :
    blockTree {} other = (blockTree { rawBodies := true } source).map PlacedBlock.trimBody := by
  induction source using body_induction { rawBodies := true } generalizing other with
  | h source ih =>
    rw [blockTree_eq, blockTree_eq, splitBlocks_eq_report other, report_trimBody hgist,
      ← splitBlocks_eq_report, List.flatMap_map, List.map_flatMap]
    apply List.flatMap_congr
    intro b hb
    rw [List.map_cons, List.map_map]
    refine congrArg _ ?_
    cases hbody : b.body with
    | none =>
      have htrim : b.trimBody.body = none := by rw [Block.trimBody, hbody]; rfl
      rw [bodyTree_of_none _ hbody, bodyTree_of_none {} htrim]
      rfl
    | some body =>
      -- the body is part of the source, so its white space is of the same kinds
      obtain ⟨x, y, -, hsource⟩ := exists_body_of_mem_splitBlocks hb hbody
      have hmargin : ∀ c ∈ body, Unicode.isWhiteSpace c = true → isMargin c = true := by
        intro c hc
        exact h c (by rw [hsource]; simp [hc])
      have htrim : b.trimBody.body = some (Text.trim body) := by rw [Block.trimBody, hbody]; rfl
      rw [bodyTree_of_some _ hbody, bodyTree_of_some {} htrim,
        ih b hb body hbody hmargin (gist_pieces_trim hmargin).symm, List.map_map]
      rfl

/-- Where all white space of a source is spaces, tabs, carriage returns and line feeds, its tree of
blocks with trimmed bodies is that with bodies as they stand, each body trimmed: the same blocks
at the same depths, with the same status, line number and selector. -/
theorem blockTree_trimBody {source : Text}
    (h : ∀ c ∈ source, Unicode.isWhiteSpace c = true →
      c = ' ' ∨ c = '\t' ∨ c = '\r' ∨ c = '\n') :
    blockTree {} source = (blockTree { rawBodies := true } source).map PlacedBlock.trimBody := by
  apply blockTree_of_gist
  · intro c hc hspace
    rcases h c hc hspace with rfl | rfl | rfl | rfl <;> rfl
  · rfl

/-- A rule in the body of a rule, with white space at all ends: both bodies are trimmed. -/
theorem blockTree_trimBody_nested :
    let source : Text := ['a', '{', '\n', '\t', 'b', ' ', '{', ' ', 'c', '\r', '\n', '}', ' ', '}']
    let raw := blockTree { rawBodies := true } source
    (∀ c ∈ source, Unicode.isWhiteSpace c = true → c = ' ' ∨ c = '\t' ∨ c = '\r' ∨ c = '\n') ∧
      raw.map (fun p => p.block.body) =
        [some ['\n', '\t', 'b', ' ', '{', ' ', 'c', '\r', '\n', '}', ' '],
          some [' ', 'c', '\r', '\n'], none] ∧
      (blockTree {} source).map (fun p => p.block.body) =
        [some ['b', ' ', '{', ' ', 'c', '\r', '\n', '}'], some ['c'], none] ∧
      blockTree {} source = raw.map PlacedBlock.trimBody := by
  intro source raw
  have hall : (source.all fun c => !Unicode.isWhiteSpace c ||
      (c = ' ' || c = '\t' || c = '\r' || c = '\n')) = true := by decide
  have hspace : ∀ c ∈ source, Unicode.isWhiteSpace c = true →
      c = ' ' ∨ c = '\t' ∨ c = '\r' ∨ c = '\n' := by
    intro c hc hwhite
    have hkind := List.all_eq_true.1 hall c hc
    simpa [hwhite, or_assoc] using hkind
  have htrim : blockTree {} source = raw.map PlacedBlock.trimBody := blockTree_trimBody hspace
  refine ⟨hspace, by decide +kernel, ?_, htrim⟩
  rw [htrim]
  decide +kernel

end SheetLex
