import SheetLex.Proofs.Block.Pass
import Mathlib.Data.List.Forall2

/-!
# Pieces tile a source, and blocks describe pieces

`Tiling` says what the pieces of a source are without running a cutter: their texts in order are
the source, a semicolon ends a piece exactly where nothing is open, a brace begins a body exactly
where nothing is open and no hash stands before it, and only the last piece may lack its closing
brace. The pieces of a source satisfy it (`tiling_pieces`).

The blocks of a pass describe the pieces that are not silent, one by one and in order
(`forall₂_describes`).
-/

set_option autoImplicit false

namespace SheetLex

/-! ## Blocks that describe pieces -/

/-- A block says what a piece is. Its line number is that of the piece, if the piece has one. -/
structure Describes (options : SplitOptions) (p : Piece) (b : Block) : Prop where
  selector : b.selector = (condense p.head).text
  body : b.body = p.body.map options.bodyText
  error : b.error? = p.cause
  notEnd : b.isEnd = false
  line : ∀ n, p.hint? = some n → b.line = n

/-- The pieces that yield blocks. -/
def visible (ps : List Piece) : List Piece := ps.filter fun p => !p.isSilent

theorem describes_block (p : Piece) (options : SplitOptions) (line : Nat) :
    Describes options p (p.block options line) where
  selector := rfl
  body := rfl
  error := by
    rw [Piece.block, Block.error?]
    cases p.cause <;> rfl
  notEnd := p.isEnd_block options line
  line n h := by
    rw [Piece.block, h]
    rfl

theorem visible_cons_of_isSilent {p : Piece} (h : p.isSilent = true) (ps : List Piece) :
    visible (p :: ps) = visible ps :=
  List.filter_cons_of_neg (by rw [h]; decide)

theorem visible_cons_of_not_isSilent {p : Piece} (h : p.isSilent = false) (ps : List Piece) :
    visible (p :: ps) = p :: visible ps :=
  List.filter_cons_of_pos (by rw [h]; rfl)

/-- The blocks that pieces yield describe those that are not silent. -/
theorem forall₂_describes (options : SplitOptions) (line : Nat) (ps : List Piece) :
    List.Forall₂ (Describes options) (visible ps) (report options line ps) := by
  induction ps generalizing line with
  | nil => exact .nil
  | cons p ps ih =>
    rw [report_cons]
    cases hp : p.isSilent with
    | true =>
      rw [visible_cons_of_isSilent hp, Piece.yield_of_isSilent hp]
      exact ih line
    | false =>
      rw [visible_cons_of_not_isSilent hp, Piece.yield_of_not_isSilent hp]
      exact .cons (describes_block p options line) (ih _)

/-! ## Tilings -/

/-- Pieces tile a source. -/
structure Tiling (source : Text) (ps : List Piece) : Prop where
  /-- The pieces are consecutive and leave nothing out. -/
  text : ps.flatMap Piece.text = source
  /-- A semicolon ends a piece exactly where nothing is open. -/
  semicolon : ∀ x y : Text, source = x ++ ';' :: y →
    (Balance.after x = .free ↔ ∃ qs p rs, ps = qs ++ p :: rs ∧ p.body = none ∧ p.closed = true ∧
      qs.flatMap Piece.text ++ p.head = x)
  /-- A brace begins a body exactly where nothing is open and no hash stands before it. -/
  brace : ∀ x y : Text, source = x ++ '{' :: y →
    (Balance.after x = .free ∧ x.getLast? ≠ some '#' ↔ ∃ qs p rs, ps = qs ++ p :: rs ∧
      p.body.isSome = true ∧ qs.flatMap Piece.text ++ p.head = x)
  /-- A rule lacks its closing brace exactly if it reports an open construct. -/
  unclosed : ∀ p ∈ ps, p.body.isSome = true → (p.closed = false ↔ p.cause.isSome = true)
  /-- Only the last piece reports an open construct. -/
  last : ∀ qs p rs, ps = qs ++ p :: rs → p.cause.isSome = true → rs = []

namespace Cutter

/-- The text before the place that a run from the start has come to. -/
theorem flatMap_text_before (x : Text) :
    (({} : Cutter).pieces x).flatMap Piece.text ++ (({} : Cutter).after x).place.text = x :=
  ({} : Cutter).flatMap_text_pieces x

theorem balance_after_start (x : Text) : (({} : Cutter).after x).balance = Balance.after x :=
  ({} : Cutter).balance_after x

theorem sound_after_start (x : Text) : (({} : Cutter).after x).Sound := sound_start.after x

/-- Where nothing is open, the cutter stands outside rules. -/
theorem Sound.exists_outside {k : Cutter} (h : k.Sound) (hfree : k.balance = .free) :
    ∃ p, k.place = .outside p := by
  cases hp : k.place with
  | outside p => exact ⟨p, rfl⟩
  | inside selector body =>
    have hdepth := h.depth_pos hp
    rw [hfree] at hdepth
    exact absurd hdepth (Nat.lt_irrefl 0)

/-- Outside rules the pending text ends with a hash exactly if what was read does: a piece never
ends with one. -/
theorem getLast?_pending {x : Text} {p : Pending}
    (hp : (({} : Cutter).after x).place = .outside p) :
    p.text.getLast? = some '#' ↔ x.getLast? = some '#' := by
  constructor
  · intro h
    have htext := flatMap_text_before x
    rw [hp] at htext
    rw [← htext, Place.text, List.getLast?_append, h]
    rfl
  · intro h
    -- the hash was read last: it has cut nothing and is part of the pending text
    obtain ⟨x, rfl⟩ := List.getLast?_eq_some_iff.1 h
    rw [after_concat] at hp
    have hstep := (({} : Cutter).after x).step_read '#'
    rw [hp] at hstep
    generalize ((({} : Cutter).after x).read '#').1 = o at hstep
    cases hstep with
    | declare p hp hfree hc => exact absurd hc (by decide)
    | closeRule selector body hp hbalance hc => exact absurd hc (by decide)
    | grow p q hp htext hsound hfree =>
      rw [htext]
      exact List.getLast?_concat

/-- A cutter in the body of a rule goes on with the piece of that rule. -/
theorem exists_rule_of_inside {k : Cutter} {selector body : Text}
    (h : k.place = .inside selector body) (t : Text) :
    ∃ p ps, k.allPieces t = p :: ps ∧ p.head = selector ∧ p.body.isSome = true := by
  induction t generalizing k body with
  | nil =>
    refine ⟨k.lastPiece, [], rfl, ?_⟩
    rw [lastPiece, h]
    exact ⟨rfl, rfl⟩
  | cons c t ih =>
    -- in a body a character closes the rule or joins the body; the other steps start outside
    rw [allPieces_cons]
    have hstep := k.step_read c
    cases hread : k.read c with
    | mk o k' =>
      rw [hread] at hstep
      simp only at hstep ⊢
      generalize hplace : k'.place = place at hstep
      cases hstep with
      | declare p hp hfree hc =>
        rw [h] at hp
        cases hp
      | openRule p hp hfree hc hhash =>
        rw [h] at hp
        cases hp
      | grow p q hp htext hsound hfree =>
        rw [h] at hp
        cases hp
      | closeRule selector' body' hp hbalance hc =>
        rw [h] at hp
        cases hp
        exact ⟨_, _, rfl, rfl, rfl⟩
      | growBody selector' body' hp hopen =>
        rw [h] at hp
        cases hp
        exact ih hplace

/-- A piece of a source is handed out by a step, or it is the last one. -/
theorem exists_step_of_pieces {source : Text} {qs rs : List Piece} {p : Piece}
    (h : SheetLex.pieces source = qs ++ p :: rs) :
    (rs = [] ∧ ({} : Cutter).pieces source = qs ∧ (({} : Cutter).after source).lastPiece = p) ∨
      ∃ (x : Text) (c : Char) (y : Text) (place : Place), source = x ++ c :: y ∧
        ({} : Cutter).pieces x = qs ∧ (({} : Cutter).after x).Step c (some p) place := by
  rw [SheetLex.pieces, allPieces] at h
  rcases List.eq_nil_or_concat rs with rfl | ⟨rs, q, rfl⟩
  · -- no piece follows: it is the one that the end of the source hands out
    obtain ⟨hqs, hp⟩ := List.append_inj' h rfl
    exact .inl ⟨rfl, hqs, List.singleton_inj.1 hp⟩
  · rw [List.concat_eq_append, ← List.cons_append, ← List.append_assoc] at h
    obtain ⟨hqs, -⟩ := List.append_inj' h rfl
    obtain ⟨x, c, y, hsource, hx, hread, -⟩ := exists_step_of_mem hqs
    have hstep := (({} : Cutter).after x).step_read c
    rw [hread] at hstep
    exact .inr ⟨x, c, y, _, hsource, hx, hstep⟩

end Cutter

/-! ## The pieces of a source tile it -/

section Exact

variable {source x y : Text}

open Cutter

/-- Where nothing is open, a semicolon ends a declaration. -/
theorem exists_declaration (hsource : source = x ++ ';' :: y) (hfree : Balance.after x = .free) :
    ∃ qs p rs, pieces source = qs ++ p :: rs ∧ p.body = none ∧ p.closed = true ∧
      qs.flatMap Piece.text ++ p.head = x := by
  have hbalance := (balance_after_start x).trans hfree
  obtain ⟨p, hp⟩ := (sound_after_start x).exists_outside hbalance
  have htext := flatMap_text_before x
  rw [hp] at htext
  refine ⟨({} : Cutter).pieces x, { head := p.text, closed := true }, ({} : Cutter).allPieces y,
    ?_, rfl, rfl, htext⟩
  rw [hsource, pieces, allPieces_append, allPieces_cons, read_semicolon hp hbalance]
  rfl

/-- A piece that ends with a semicolon ends with one at which nothing was open. -/
theorem free_of_declaration {qs rs : List Piece} {p : Piece} (h : pieces source = qs ++ p :: rs)
    (hbody : p.body = none) (hclosed : p.closed = true) :
    Balance.after (qs.flatMap Piece.text ++ p.head) = .free := by
  rcases exists_step_of_pieces h with ⟨-, -, rfl⟩ | ⟨x, c, y, place, -, rfl, hstep⟩
  · -- the last piece has no closing character
    rw [lastPiece] at hclosed
    split at hclosed <;> cases hclosed
  · cases hstep with
    | declare p hp hfree hc =>
      have htext := flatMap_text_before x
      rw [hp] at htext
      rw [balance_after_start] at hfree
      exact (congrArg Balance.after htext).trans hfree
    | openRule p hp hfree hc hhash => cases hclosed
    | closeRule selector body hp hbalance hc => cases hbody

/-- Where nothing is open and no hash stands before it, a brace begins a body. -/
theorem exists_rule (hsource : source = x ++ '{' :: y) (hfree : Balance.after x = .free)
    (hhash : x.getLast? ≠ some '#') :
    ∃ qs p rs, pieces source = qs ++ p :: rs ∧ p.body.isSome = true ∧
      qs.flatMap Piece.text ++ p.head = x := by
  have hbalance := (balance_after_start x).trans hfree
  obtain ⟨p, hp⟩ := (sound_after_start x).exists_outside hbalance
  have hpending : p.text.getLast? ≠ some '#' := fun h => hhash ((getLast?_pending hp).1 h)
  -- the brace hands out the lead, and the piece behind that one is the rule
  obtain ⟨rule, rs, hrule, hhead, hbody⟩ := exists_rule_of_inside
    (k := ⟨{ depth := 1 }, .inside p.settle.selector []⟩) rfl y
  refine ⟨({} : Cutter).pieces x ++ [{ head := p.settle.lead }], rule, rs, ?_, hbody, ?_⟩
  · rw [hsource, pieces, allPieces_append, allPieces_cons, read_leftBrace hp hbalance hpending,
      hrule, List.append_assoc]
    rfl
  · have htext := flatMap_text_before x
    rw [hp, Place.text, ← p.text_settle, ← p.settle.lead_append_selector] at htext
    rw [List.flatMap_append, List.flatMap_singleton, Piece.text, hhead, List.append_assoc]
    simpa using htext

/-- A rule begins with a brace at which nothing was open and before which no hash stood. -/
theorem free_of_rule {qs rs : List Piece} {p : Piece} (h : pieces source = qs ++ p :: rs)
    (hbody : p.body.isSome = true) :
    Balance.after (qs.flatMap Piece.text ++ p.head) = .free ∧
      (qs.flatMap Piece.text ++ p.head).getLast? ≠ some '#' := by
  -- whether it was closed or not, the cutter was in the body of the rule when the piece ended
  have hinside : ∃ x selector body, ({} : Cutter).pieces x = qs ∧ p.head = selector ∧
      (({} : Cutter).after x).place = .inside selector body := by
    rcases exists_step_of_pieces h with ⟨-, rfl, rfl⟩ | ⟨x, c, y, place, -, rfl, hstep⟩
    · rw [lastPiece] at hbody ⊢
      cases hp : (({} : Cutter).after source).place with
      | outside p =>
        rw [hp] at hbody
        cases hbody
      | inside selector body => exact ⟨source, selector, body, rfl, rfl, hp⟩
    · cases hstep with
      | declare p hp hfree hc => cases hbody
      | openRule p hp hfree hc hhash => cases hbody
      | closeRule selector body hp hbalance hc => exact ⟨x, selector, body, rfl, rfl, hp⟩
  obtain ⟨x, selector, body, rfl, hhead, hp⟩ := hinside
  obtain ⟨y, pending, hx, hpending, hfree, hhash, -⟩ := exists_openRule hp
  -- what precedes the body is the same read from its end and from the brace
  have htext := flatMap_text_before x
  rw [hp, Place.text, ← List.append_assoc] at htext
  have hy : (({} : Cutter).pieces x).flatMap Piece.text ++ p.head = y := by
    rw [hhead]
    exact List.append_cancel_right (htext.trans hx)
  rw [hy, ← balance_after_start]
  exact ⟨hfree, fun h => hhash ((getLast?_pending hpending).2 h)⟩

/-- Only the last piece reports an open construct. -/
theorem eq_nil_of_cause {qs rs : List Piece} {p : Piece} (h : pieces source = qs ++ p :: rs)
    (hcause : p.cause.isSome = true) : rs = [] := by
  rcases exists_step_of_pieces h with ⟨hrs, -, -⟩ | ⟨x, c, y, place, -, -, hstep⟩
  · exact hrs
  · cases hstep with
    | declare p hp hfree hc => cases hcause
    | openRule p hp hfree hc hhash => cases hcause
    | closeRule selector body hp hbalance hc => cases hcause

/-- A rule lacks its closing brace exactly if it reports an open construct. -/
theorem unclosed_iff {p : Piece} (hp : p ∈ pieces source) (hbody : p.body.isSome = true) :
    p.closed = false ↔ p.cause.isSome = true := by
  obtain ⟨qs, rs, h⟩ := List.append_of_mem hp
  rcases exists_step_of_pieces h with ⟨-, -, rfl⟩ | ⟨x, c, y, place, -, -, hstep⟩
  · cases hplace : (({} : Cutter).after source).place with
    | outside p =>
      rw [lastPiece, hplace] at hbody
      cases hbody
    | inside selector body =>
      -- the brace of the rule is open at the end, so there is a construct to report
      have hdepth := (sound_after_start source).depth_pos hplace
      have hcause : (({} : Cutter).after source).balance.openConstruct? ≠ none := by
        intro hnone
        rw [(Balance.openConstruct?_eq_none_iff _).1 hnone] at hdepth
        exact Nat.lt_irrefl 0 hdepth
      rw [lastPiece, hplace]
      exact ⟨fun _ => Option.isSome_iff_ne_none.2 hcause, fun _ => rfl⟩
  · cases hstep with
    | declare p hp hfree hc => cases hbody
    | openRule p hp hfree hc hhash => cases hbody
    | closeRule selector body hp hbalance hc => exact ⟨fun h => h.symm, fun h => h.symm⟩

end Exact

/-- The pieces of a source tile it. -/
theorem tiling_pieces (source : Text) : Tiling source (pieces source) where
  text := flatMap_text_pieces source
  semicolon x y hsource := by
    constructor
    · exact exists_declaration hsource
    · rintro ⟨qs, p, rs, h, hbody, hclosed, rfl⟩
      exact free_of_declaration h hbody hclosed
  brace x y hsource := by
    constructor
    · rintro ⟨hfree, hhash⟩
      exact exists_rule hsource hfree hhash
    · rintro ⟨qs, p, rs, h, hbody, rfl⟩
      exact free_of_rule h hbody
  unclosed p hp := unclosed_iff hp
  last qs p rs := eq_nil_of_cause

/-- The pieces of a source tile it, and with bodies kept as they stand, its blocks describe the
pieces that are not silent, one by one and in order. -/
theorem splitBlocks_tile (source : Text) :
    Tiling source (pieces source) ∧
      List.Forall₂ (fun p b => b.selector = (condense p.head).text ∧ b.body = p.body ∧
          b.error? = p.cause ∧ b.isEnd = false)
        (visible (pieces source)) (splitBlocks source { rawBodies := true }) := by
  refine ⟨tiling_pieces source, ?_⟩
  rw [splitBlocks_eq_report]
  apply (forall₂_describes _ 0 (pieces source)).imp
  rintro p b ⟨hselector, hbody, herror, hend, -⟩
  refine ⟨hselector, ?_, herror, hend⟩
  rw [hbody]
  exact Option.map_id'

end SheetLex
