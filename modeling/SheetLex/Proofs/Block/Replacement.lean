import SheetLex.Proofs.Block.Uncut
import SheetLex.Proofs.Layout.Margin

/-!
# Replacing part of a source

Two cutters hand out pieces that look the same, from the same rest of the source, if the texts that
they hold look the same now and after any part of the rest (`Text.Agree`, `Cutter.Replaces`). So one
text can take the place of another in a source if the cutter gets into such states behind both
(`view_pieces_congr`), and the blocks then agree in all that can be told from the looks of pieces
(`map_report_congr`).

How a text looks is a parameter, one for heads and one for bodies. The looks of a head have to tell
whether it is blank (`ShowsBlank`), because that decides where selectors begin and which pieces
yield a block.
-/

set_option autoImplicit false

namespace SheetLex

variable {α β : Type}

/-! ## Texts that look the same -/

/-- Two texts look the same, and go on looking the same while the rest of the source is read behind
both. -/
def Text.Agree (look : Text → α) (rest s t : Text) : Prop :=
  ∀ b, b <+: rest → look (s ++ b) = look (t ++ b)

/-- The looks of a text tell whether it is blank. -/
def ShowsBlank (look : Text → α) : Prop :=
  ∀ s t, look s = look t → isBlank s = isBlank t

/-- The condensed form tells it. -/
theorem showsBlank_condense : ShowsBlank condense := fun _ _ h => isBlank_congr h

namespace Text.Agree

variable {look : Text → α} {rest s t : Text} {c : Char}

theorem refl (s : Text) : Agree look rest s s := fun _ _ => rfl

theorem now (h : Agree look rest s t) : look s = look t := by
  have hnil := h [] List.nil_prefix
  rw [List.append_nil, List.append_nil] at hnil
  exact hnil

theorem concat (h : Agree look (c :: rest) s t) : Agree look rest (s ++ [c]) (t ++ [c]) := by
  intro b hb
  rw [List.append_assoc, List.append_assoc]
  exact h (c :: b) (List.cons_prefix_cons.2 ⟨rfl, hb⟩)

end Text.Agree

/-- What shows of a piece: the looks of its head and of its body, and the construct left open. -/
def Piece.view (look : Text → α) (seen : Text → β) (p : Piece) :
    α × Option β × Option OpenConstruct :=
  (look p.head, p.body.map seen, p.cause)

/-! ## Pending texts -/

namespace Pending

variable {look : Text → α} {c : Char} {rest : Text} {p q : Pending}

@[simp] theorem selector_add (p : Pending) (c : Char) :
    (p.add c).selector = p.selector ++ [c] := by
  simp [selector, add]

@[simp] theorem selector_hold (p : Pending) (c : Char) (loose : Bool) :
    (p.hold c loose).selector = p.selector ++ [c] := by
  simp [selector, hold]

/-- Where a new run begins, all of the pending text stands before it. -/
theorem lead_append_held_hold (p : Pending) (c : Char) (loose : Bool) :
    (p.hold c loose).lead ++ (p.hold c loose).held = p.text ++ [c] := by
  simp [text, hold]

/-- One pending text can stand for the other in front of the rest of the source. -/
structure Replaces (look : Text → α) (rest : Text) (p q : Pending) : Prop where
  loose : p.loose = q.loose
  lead : look p.lead = look q.lead
  /-- What becomes the lead if the selector settles. -/
  lead_held : p.loose = true → look (p.lead ++ p.held) = look (q.lead ++ q.held)
  run : Text.Agree look rest p.run q.run
  selector : Text.Agree look rest p.selector q.selector
  text : Text.Agree look rest p.text q.text
  /-- If a brace comes next, it opens an interpolation behind both or behind neither. -/
  hash : rest.head? = some '{' → (p.text.getLast? = some '#' ↔ q.text.getLast? = some '#')

theorem Replaces.refl (p : Pending) : Replaces look rest p p :=
  ⟨rfl, rfl, fun _ => rfl, .refl _, .refl _, .refl _, fun _ => Iff.rfl⟩

theorem Replaces.isBlank_run (h : Replaces look rest p q) (hlook : ShowsBlank look) :
    isBlank p.run = isBlank q.run := hlook _ _ h.run.now

theorem Replaces.add (h : Replaces look (c :: rest) p q) :
    Replaces look rest (p.add c) (q.add c) where
  loose := h.loose
  lead := h.lead
  lead_held := h.lead_held
  run := h.run.concat
  selector := by
    rw [selector_add, selector_add]
    exact h.selector.concat
  text := by
    rw [text_add, text_add]
    exact h.text.concat
  hash _ := by rw [text_add, text_add, List.getLast?_concat, List.getLast?_concat]

theorem Replaces.hold (h : Replaces look (c :: rest) p q) (loose : Bool) :
    Replaces look rest (p.hold c loose) (q.hold c loose) where
  loose := rfl
  lead := h.lead
  lead_held _ := by
    rw [lead_append_held_hold, lead_append_held_hold]
    exact h.text.concat.now
  run := .refl []
  selector := by
    rw [selector_hold, selector_hold]
    exact h.selector.concat
  text := by
    rw [text_hold, text_hold]
    exact h.text.concat
  hash _ := by rw [text_hold, text_hold, List.getLast?_concat, List.getLast?_concat]

theorem Replaces.settle (h : Replaces look rest p q) (hlook : ShowsBlank look) :
    Replaces look rest p.settle q.settle := by
  have htext : Text.Agree look rest p.settle.text q.settle.text := by
    rw [text_settle, text_settle]
    exact h.text
  have hhash : rest.head? = some '{' →
      (p.settle.text.getLast? = some '#' ↔ q.settle.text.getLast? = some '#') := by
    rw [text_settle, text_settle]
    exact h.hash
  rw [Pending.settle, Pending.settle] at htext hhash ⊢
  -- the selector settles on both sides or on neither
  rw [h.loose, h.isBlank_run hlook] at htext hhash ⊢
  split
  · rename_i hsettles
    have hloose := ((Bool.and_eq_true _ _).mp hsettles).1
    rw [if_pos hsettles, if_pos hsettles] at htext hhash
    exact ⟨rfl, h.lead_held (h.loose.trans hloose), fun hfalse => absurd hfalse Bool.false_ne_true,
      h.run, h.run, htext, hhash⟩
  · exact h

/-- A character that cuts nothing is read alike behind both. -/
theorem Replaces.next (h : Replaces look (c :: rest) p q) (hlook : ShowsBlank look)
    (b : Balance) : Replaces look rest (p.next b c) (q.next b c) := by
  cases turn b c (isBlank p.run) with
  | add hnext =>
    rw [hnext p rfl, hnext q (h.isBlank_run hlook).symm]
    exact h.add
  | hold hnext =>
    rw [hnext p, hnext q]
    exact h.hold false
  | settle loose hfree hc hnext =>
    rw [hnext p rfl, hnext q (h.isBlank_run hlook).symm]
    exact (h.settle hlook).hold loose

end Pending

/-! ## Cutters -/

/-- One place can stand for the other in front of the rest of the source. -/
inductive Place.Replaces (look : Text → α) (seen : Text → β) (rest : Text) :
    Place → Place → Prop where
  | outside {p q : Pending} : p.Replaces look rest q →
      Replaces look seen rest (.outside p) (.outside q)
  | inside {selector selector' body body' : Text} : look selector = look selector' →
      Text.Agree seen rest body body' →
      Replaces look seen rest (.inside selector body) (.inside selector' body')

/-- Outside rules, the next character ends pieces that look the same, if it ends any. -/
theorem Pending.Replaces.read {look : Text → α} (seen : Text → β) {c : Char} {rest : Text}
    {p q : Pending} (h : p.Replaces look (c :: rest) q) (hlook : ShowsBlank look) (b : Balance) :
    (p.read b c).1.map (Piece.view look seen) = (q.read b c).1.map (Piece.view look seen) ∧
      (p.read b c).2.Replaces look seen rest (q.read b c).2 := by
  have hopens : (b = .free ∧ c = '{' ∧ p.text.getLast? ≠ some '#') ↔
      (b = .free ∧ c = '{' ∧ q.text.getLast? ≠ some '#') := by
    constructor
    · rintro ⟨hfree, rfl, hhash⟩
      exact ⟨hfree, rfl, fun hq => hhash ((h.hash rfl).2 hq)⟩
    · rintro ⟨hfree, rfl, hhash⟩
      exact ⟨hfree, rfl, fun hp => hhash ((h.hash rfl).1 hp)⟩
  rw [Pending.read_eq, Pending.read_eq]
  by_cases hsemicolon : b = .free ∧ c = ';'
  · rw [if_pos hsemicolon, if_pos hsemicolon]
    refine ⟨?_, .outside (.refl _)⟩
    simp [Piece.view, h.text.now]
  rw [if_neg hsemicolon, if_neg hsemicolon]
  by_cases hopen : b = .free ∧ c = '{' ∧ p.text.getLast? ≠ some '#'
  · -- the lead ends as a declaration, and the selector is kept
    have hsettle := h.settle hlook
    rw [if_pos hopen, if_pos (hopens.1 hopen)]
    refine ⟨?_, .inside hsettle.selector.now (.refl [])⟩
    simp [Piece.view, hsettle.lead]
  · rw [if_neg hopen, if_neg (mt hopens.2 hopen)]
    exact ⟨rfl, .outside (h.next hlook b)⟩

namespace Cutter

/-- One cutter can stand for the other in front of the rest of the source. -/
structure Replaces (look : Text → α) (seen : Text → β) (rest : Text) (k k' : Cutter) : Prop where
  balance : k.balance = k'.balance
  place : k.place.Replaces look seen rest k'.place

variable {look : Text → α} {seen : Text → β} {c : Char} {rest : Text} {k k' : Cutter}

theorem replaces_readAt (hlook : ShowsBlank look) (h : Replaces look seen (c :: rest) k k') :
    (k.readAt c).1.map (Piece.view look seen) = (k'.readAt c).1.map (Piece.view look seen) ∧
      (k.readAt c).2.Replaces look seen rest (k'.readAt c).2 := by
  obtain ⟨balance, place⟩ := k
  obtain ⟨balance', place'⟩ := k'
  obtain rfl : balance = balance' := h.balance
  cases h.place with
  | outside hp => exact hp.read seen hlook balance
  | @inside selector selector' body body' hselector hbody =>
    simp only [readAt]
    by_cases hclose : closesRule ⟨balance, .inside selector body⟩ c
    · rw [if_pos hclose, if_pos (show closesRule ⟨balance, .inside selector' body'⟩ c from hclose)]
      refine ⟨?_, .outside (.refl _)⟩
      simp [Piece.view, hselector, hbody.now]
    · rw [if_neg hclose,
        if_neg (show ¬ closesRule ⟨balance, .inside selector' body'⟩ c from hclose)]
      exact ⟨rfl, .inside hselector hbody.concat⟩

/-- The next character ends pieces that look the same, if it ends any. -/
theorem Replaces.read (h : Replaces look seen (c :: rest) k k') (hlook : ShowsBlank look) :
    (k.read c).1.map (Piece.view look seen) = (k'.read c).1.map (Piece.view look seen) ∧
      (k.read c).2.Replaces look seen rest (k'.read c).2 := by
  obtain ⟨hpiece, hplace⟩ := replaces_readAt hlook h
  exact ⟨hpiece, congrArg (fun b => Balance.read b c) h.balance, hplace⟩

theorem Replaces.view_lastPiece (h : Replaces look seen rest k k') :
    k.lastPiece.view look seen = k'.lastPiece.view look seen := by
  obtain ⟨balance, place⟩ := k
  obtain ⟨balance', place'⟩ := k'
  obtain rfl : balance = balance' := h.balance
  cases h.place with
  | outside hp => simp [lastPiece, Piece.view, hp.text.now]
  | inside hselector hbody => simp [lastPiece, Piece.view, hselector, hbody.now]

/-- The pieces of the rest of the source look the same. -/
theorem Replaces.view_allPieces (h : Replaces look seen rest k k') (hlook : ShowsBlank look) :
    (k.allPieces rest).map (Piece.view look seen) =
      (k'.allPieces rest).map (Piece.view look seen) := by
  -- a character read takes the relation to the rest behind it
  induction rest generalizing k k' with
  | nil => exact congrArg (fun v => [v]) h.view_lastPiece
  | cons c rest ih =>
    obtain ⟨hpiece, hnext⟩ := h.read hlook
    rw [allPieces_cons, allPieces_cons, List.map_append, List.map_append, ih hnext,
      ← Option.toList_map, hpiece, Option.toList_map]

end Cutter

/-! ## Texts within which no piece ends -/

/-- The character ends no piece, wherever the cutter stands: a semicolon or an opening brace does
so only where nothing is open, a closing brace only in the body of a rule. -/
def Balance.Spares (b : Balance) (c : Char) : Prop :=
  (b = .free → c ≠ ';' ∧ c ≠ '{') ∧ (b = { depth := 1 } → c ≠ '}')

/-- No character of the text, read from the count given, ends a piece. -/
def Balance.SparesAll (b : Balance) : Text → Prop
  | [] => True
  | c :: t => b.Spares c ∧ (b.read c).SparesAll t

theorem Balance.sparesAll_append {b : Balance} {s t : Text} :
    b.SparesAll (s ++ t) ↔ b.SparesAll s ∧ (b.readAll s).SparesAll t := by
  induction s generalizing b with
  | nil => simp [SparesAll, readAll_nil]
  | cons c s ih => rw [List.cons_append, SparesAll, SparesAll, readAll_cons, ih, and_assoc]

/-- The place behind a text within which no piece ends. -/
def Place.grow (b : Balance) (t : Text) : Place → Place
  | .outside p => .outside (p.nextAll b t)
  | .inside selector body => .inside selector (body ++ t)

namespace Cutter

theorem read_of_spares {k : Cutter} {c : Char} (h : k.balance.Spares c) :
    k.read c = (none, ⟨k.balance.read c, k.place.grow k.balance [c]⟩) := by
  obtain ⟨balance, place⟩ := k
  obtain ⟨houtside, hinside⟩ := h
  rw [Cutter.read, readAt]
  cases place with
  | outside p =>
    simp only
    rw [Pending.read_eq, if_neg fun h => (houtside h.1).1 h.2,
      if_neg fun h => (houtside h.1).2 h.2.1]
    rfl
  | inside selector body =>
    have hopen : ¬ closesRule ⟨balance, .inside selector body⟩ c :=
      fun h => hinside h.1 (Mark.eq_of_of_eq h.2 rfl)
    simp only [if_neg hopen]
    rfl

theorem after_of_sparesAll {k : Cutter} {t : Text} (h : k.balance.SparesAll t) :
    k.pieces t = [] ∧ k.after t = ⟨k.balance.readAll t, k.place.grow k.balance t⟩ := by
  induction t generalizing k with
  | nil =>
    obtain ⟨balance, place⟩ := k
    cases place with
    | outside p => exact ⟨rfl, rfl⟩
    | inside selector body =>
      refine ⟨rfl, ?_⟩
      rw [Place.grow, List.append_nil]
      rfl
  | cons c t ih =>
    obtain ⟨hc, ht⟩ := h
    have hread := read_of_spares hc
    obtain ⟨hpieces, hafter⟩ := ih (k := (k.read c).2) (by rw [hread]; exact ht)
    rw [pieces_cons, after_cons, hpieces, hafter, hread]
    refine ⟨rfl, ?_⟩
    cases k.place with
    | outside p => rfl
    | inside selector body => simp [Place.grow, Balance.readAll_cons]

end Cutter

/-! ## Sources and blocks -/

section Blocks

variable {look : Text → α} {seen : Text → β}

/-- A text within which no piece ends can be replaced by another such text, if the same is open
behind both and the place behind the one can stand for the place behind the other. -/
theorem view_pieces_congr (hlook : ShowsBlank look) {x m m' y : Text}
    (hm : (Balance.after x).SparesAll m) (hm' : (Balance.after x).SparesAll m')
    (hbalance : (Balance.after x).readAll m = (Balance.after x).readAll m')
    (hplace : ((({} : Cutter).after x).place.grow (Balance.after x) m).Replaces look seen y
      ((({} : Cutter).after x).place.grow (Balance.after x) m')) :
    (pieces (x ++ m ++ y)).map (Piece.view look seen) =
      (pieces (x ++ m' ++ y)).map (Piece.view look seen) := by
  rw [← Cutter.balance_after_start] at hm hm' hbalance hplace
  obtain ⟨hpieces, hafter⟩ := Cutter.after_of_sparesAll hm
  obtain ⟨hpieces', hafter'⟩ := Cutter.after_of_sparesAll hm'
  have hreplaces : ((({} : Cutter).after x).after m).Replaces look seen y
      ((({} : Cutter).after x).after m') := by
    rw [hafter, hafter']
    exact ⟨hbalance, hplace⟩
  simp only [pieces, List.append_assoc, Cutter.allPieces_append, hpieces, hpieces',
    List.nil_append, List.map_append, hreplaces.view_allPieces hlook]

theorem isSilent_congr_view (hlook : ShowsBlank look) {p q : Piece}
    (h : p.view look seen = q.view look seen) : p.isSilent = q.isSilent := by
  obtain ⟨hhead, hrest⟩ := Prod.mk.inj h
  obtain ⟨hbody, -⟩ := Prod.mk.inj hrest
  have hnone : p.body.isNone = q.body.isNone := by
    rw [← Option.isNone_map (f := seen), hbody, Option.isNone_map]
  rw [Piece.isSilent, Piece.isSilent, hnone, hlook _ _ hhead]

/-- What is read off the blocks of two passes is the same if the pieces look the same, and if it
depends on nothing but their looks and on line numbers that stay related. -/
theorem map_report_congr {γ : Type} (hlook : ShowsBlank look) {options options' : SplitOptions}
    {f g : Block → γ} {R : Nat → Nat → Prop}
    (hblock : ∀ p q : Piece, p.view look seen = q.view look seen → ∀ line line', R line line' →
      f (p.block options line) = g (q.block options' line') ∧
        R (p.hint?.getD line) (q.hint?.getD line'))
    {ps qs : List Piece} (h : ps.map (Piece.view look seen) = qs.map (Piece.view look seen))
    {line line' : Nat} (hline : R line line') :
    (report options line ps).map f = (report options' line' qs).map g := by
  induction ps generalizing qs line line' with
  | nil =>
    obtain rfl : qs = [] := List.map_eq_nil_iff.1 h.symm
    rfl
  | cons p ps ih =>
    cases qs with
    | nil => cases h
    | cons q qs =>
      obtain ⟨hfirst, hrest⟩ := List.cons.inj h
      have hsilent := isSilent_congr_view hlook hfirst
      rw [report_cons, report_cons, List.map_append, List.map_append]
      cases hp : p.isSilent with
      | true =>
        rw [Piece.yield_of_isSilent hp, Piece.yield_of_isSilent (hsilent.symm.trans hp)]
        exact congrArg _ (ih hrest hline)
      | false =>
        obtain ⟨hview, hline'⟩ := hblock p q hfirst line line' hline
        rw [Piece.yield_of_not_isSilent hp, Piece.yield_of_not_isSilent (hsilent.symm.trans hp)]
        simp only [Option.toList_some, List.map_cons, List.map_nil, hview, ih hrest hline']

end Blocks

end SheetLex
