import SheetLex.Proofs.Block.Piece
import Mathlib.Data.List.Induction

/-!
# Cutting a source into pieces

`Cutter` finds the pieces of a source by reading it once. It knows what is open and holds the text
of the piece that it is in; it has no positions, and of the pieces behind it nothing is left in it.

`Cutter.Step` lists what one character can do, and `Cutter.step_read` says that nothing else can
happen. From it follow the facts about runs: no character is lost or moved
(`Cutter.flatMap_text_pieces`), the count of open constructs is that of `Balance`
(`Cutter.balance_after`), a run over a concatenation is two runs (`Cutter.pieces_append`), and
every piece that a run hands out was handed out by one of its steps (`Cutter.exists_step_of_mem`).
-/

set_option autoImplicit false

namespace SheetLex

/-- Where a cutter stands: outside rules, or in the body of one. -/
inductive Place where
  | outside (pending : Pending)
  | inside (selector body : Text)
deriving DecidableEq, Repr

/-- The text of the piece that is being read. -/
def Place.text : Place → Text
  | .outside p => p.text
  | .inside selector body => selector ++ '{' :: body

/-- Read a character outside rules. -/
def Pending.read (p : Pending) (b : Balance) (c : Char) : Option Piece × Place :=
  if b = .free then
    match Mark.of c with
    | .semicolon => (some { head := p.text, closed := true }, .outside {})
    | .leftBrace =>
      if p.text.getLast? = some '#' then (none, .outside (p.add c))
      else (some { head := p.settle.lead }, .inside p.settle.selector [])
    | .comma => (none, .outside (p.settle.hold c false))
    | .lineFeed => (none, .outside (p.breakLine c))
    | _ => (none, .outside (p.absorb b c))
  else (none, .outside (p.absorb b c))

/-- A reader that cuts a source into pieces. -/
structure Cutter where
  /-- What is open. -/
  balance : Balance := .free
  place : Place := .outside {}
deriving DecidableEq, Repr

namespace Cutter

/-- The cutter is in the body of a rule and no other construct is open. -/
def closesRule (k : Cutter) (c : Char) : Prop :=
  k.balance = { depth := 1 } ∧ Mark.of c = .rightBrace

instance (k : Cutter) (c : Char) : Decidable (k.closesRule c) := inferInstanceAs (Decidable (_ ∧ _))

/-- Read a character at a place: the piece that it ends, if any, and the place behind it. -/
def readAt (k : Cutter) (c : Char) : Option Piece × Place :=
  match k.place with
  | .outside p => p.read k.balance c
  | .inside selector body =>
    if k.closesRule c then
      (some { head := selector, body := some body, closed := true }, .outside {})
    else (none, .inside selector (body ++ [c]))

/-- Read a character. -/
def read (k : Cutter) (c : Char) : Option Piece × Cutter :=
  ((k.readAt c).1, ⟨k.balance.read c, (k.readAt c).2⟩)

/-- The cutter behind a text. -/
def after (k : Cutter) (t : Text) : Cutter := t.foldl (fun k c => (k.read c).2) k

/-- The pieces that end within a text. -/
def pieces : Cutter → Text → List Piece
  | _, [] => []
  | k, c :: t => (k.read c).1.toList ++ (k.read c).2.pieces t

/-- The piece that the end of the source ends. -/
def lastPiece (k : Cutter) : Piece :=
  match k.place with
  | .outside p => { head := p.text, cause := k.balance.openConstruct? }
  | .inside selector body =>
    { head := selector, body := some body, cause := k.balance.openConstruct? }

/-- All pieces of the rest of a source. -/
def allPieces (k : Cutter) (t : Text) : List Piece := k.pieces t ++ [(k.after t).lastPiece]

end Cutter

/-- The pieces of a source. -/
def pieces (source : Text) : List Piece := ({} : Cutter).allPieces source

/-! ## Single steps -/

/-- What a character can do to the place of a cutter: the piece that it ends, and the place
behind it. -/
inductive Cutter.Step (k : Cutter) (c : Char) : Option Piece → Place → Prop where
  /-- A semicolon ends a declaration. -/
  | declare (p : Pending) : k.place = .outside p → k.balance = .free → c = ';' →
      Step k c (some { head := p.text, closed := true }) (.outside {})
  /-- A brace opens a rule, and ends what leads up to it. -/
  | openRule (p : Pending) : k.place = .outside p → k.balance = .free → c = '{' →
      p.text.getLast? ≠ some '#' →
      Step k c (some { head := p.settle.lead }) (.inside p.settle.selector [])
  /-- A brace closes a rule. -/
  | closeRule (selector body : Text) : k.place = .inside selector body →
      k.balance = { depth := 1 } → c = '}' →
      Step k c (some { head := selector, body := some body, closed := true }) (.outside {})
  /-- The pending text grows. -/
  | grow (p q : Pending) : k.place = .outside p → q.text = p.text ++ [c] →
      (p.Sound → q.Sound) →
      (k.balance = .free → c ≠ ';' ∧ (c = '{' → p.text.getLast? = some '#')) →
      Step k c none (.outside q)
  /-- The body grows. -/
  | growBody (selector body : Text) : k.place = .inside selector body → ¬ k.closesRule c →
      Step k c none (.inside selector (body ++ [c]))

theorem Pending.Sound.breakLine {p : Pending} (h : p.Sound) : (p.breakLine '\n').Sound := by
  rw [Pending.breakLine]
  split
  · exact h.add _
  · exact h.settle.hold fun _ => rfl

theorem Pending.Sound.absorb {p : Pending} (h : p.Sound) (b : Balance) (c : Char) :
    (p.absorb b c).Sound := by
  rw [Pending.absorb]
  split
  · exact h.hold fun h => absurd h Bool.false_ne_true
  · exact h.add c

namespace Cutter

theorem step_readAt_outside {k : Cutter} {p : Pending} (hp : k.place = .outside p) (c : Char) :
    k.Step c (p.read k.balance c).1 (p.read k.balance c).2 := by
  -- a character that is absorbed, whether something is open or not
  have absorbed (hfree : k.balance = .free → c ≠ ';' ∧ c ≠ '{') :
      k.Step c none (.outside (p.absorb k.balance c)) := by
    refine .grow p _ hp (p.text_absorb _ c) (fun h => h.absorb _ c) ?_
    intro h
    exact ⟨(hfree h).1, fun hc => absurd hc (hfree h).2⟩
  rw [Pending.read]
  by_cases hfree : k.balance = .free
  · have absorbed' : Mark.of c ≠ .semicolon → Mark.of c ≠ .leftBrace →
        k.Step c none (.outside (p.absorb k.balance c)) := by
      intro hsemicolon hbrace
      refine absorbed fun _ => ⟨?_, ?_⟩
      · rintro rfl
        exact hsemicolon rfl
      · rintro rfl
        exact hbrace rfl
    rw [if_pos hfree]
    split
    · rename_i hmark
      exact .declare p hp hfree (Mark.eq_of_of_eq hmark rfl)
    · rename_i hmark
      have hc : c = '{' := Mark.eq_of_of_eq hmark rfl
      split
      · -- the brace of an interpolation is part of the pending text
        rename_i hhash
        refine .grow p _ hp (p.text_add c) (fun h => h.add c) fun _ => ⟨?_, fun _ => hhash⟩
        rw [hc]
        decide
      · rename_i hhash
        exact .openRule p hp hfree hc hhash
    · rename_i hmark
      have hc : c = ',' := Mark.eq_of_of_eq hmark rfl
      subst hc
      exact .grow p _ hp (by simp)
        (fun h => h.settle.hold fun h => absurd h Bool.false_ne_true)
        fun _ => ⟨by decide, fun h => absurd h (by decide)⟩
    · rename_i hmark
      have hc : c = '\n' := Mark.eq_of_of_eq hmark rfl
      subst hc
      exact .grow p _ hp (by simp) (fun h => h.breakLine)
        fun _ => ⟨by decide, fun h => absurd h (by decide)⟩
    · rename_i hsemicolon hbrace _ _
      exact absorbed' hsemicolon hbrace
  · rw [if_neg hfree]
    exact absorbed fun h => absurd h hfree

/-- A character does one of the things that `Cutter.Step` lists. -/
theorem step_read (k : Cutter) (c : Char) : k.Step c (k.read c).1 (k.read c).2.place := by
  change k.Step c (k.readAt c).1 (k.readAt c).2
  rw [readAt]
  split
  · rename_i p hp
    exact step_readAt_outside hp c
  · rename_i selector body hp
    split
    · rename_i hclose
      exact .closeRule selector body hp hclose.1 (Mark.eq_of_of_eq hclose.2 rfl)
    · rename_i hopen
      exact .growBody selector body hp hopen

/-! ## Characters that cut -/

section Cuts

variable {k : Cutter} {p : Pending} {selector body : Text}

theorem read_semicolon (hp : k.place = .outside p) (hfree : k.balance = .free) :
    k.read ';' = (some { head := p.text, closed := true }, {}) := by
  rw [read, readAt, hp, hfree]
  rfl

theorem read_leftBrace (hp : k.place = .outside p) (hfree : k.balance = .free)
    (hhash : p.text.getLast? ≠ some '#') :
    k.read '{' =
      (some { head := p.settle.lead }, ⟨{ depth := 1 }, .inside p.settle.selector []⟩) := by
  have hread : p.read .free '{' =
      (some { head := p.settle.lead }, .inside p.settle.selector []) := by
    rw [Pending.read, if_pos rfl]
    exact if_neg hhash
  rw [read, readAt, hp, hfree]
  simp only [hread]
  rfl

theorem read_rightBrace (hp : k.place = .inside selector body)
    (hbalance : k.balance = { depth := 1 }) :
    k.read '}' = (some { head := selector, body := some body, closed := true }, {}) := by
  have hclose : k.closesRule '}' := ⟨hbalance, rfl⟩
  rw [read, readAt, hp]
  simp only [if_pos hclose]
  rw [hbalance]
  rfl

end Cuts

/-! ## Text -/

/-- A step adds its character to the text that is held, and hands out the front of it. -/
theorem Step.text_eq {k : Cutter} {c : Char} {o : Option Piece} {place : Place}
    (h : k.Step c o place) : o.toList.flatMap Piece.text ++ place.text = k.place.text ++ [c] := by
  cases h with
  | declare p hp hfree hc =>
    rw [hp, hc]
    simp [Piece.text, Place.text, Pending.text]
  | openRule p hp hfree hc hhash =>
    rw [hp, hc, Place.text, Place.text, ← p.text_settle, ← p.settle.lead_append_selector]
    simp [Piece.text]
  | closeRule selector body hp hbalance hc =>
    rw [hp, hc]
    simp [Piece.text, Place.text, Pending.text]
  | grow p q hp htext hsound hfree =>
    rw [hp, Place.text, Place.text, htext]
    rfl
  | growBody selector body hp hopen =>
    rw [hp]
    simp [Place.text]

@[simp] theorem pieces_nil (k : Cutter) : k.pieces [] = [] := rfl

@[simp] theorem after_nil (k : Cutter) : k.after [] = k := rfl

theorem pieces_cons (k : Cutter) (c : Char) (t : Text) :
    k.pieces (c :: t) = (k.read c).1.toList ++ (k.read c).2.pieces t := rfl

theorem after_cons (k : Cutter) (c : Char) (t : Text) :
    k.after (c :: t) = (k.read c).2.after t := rfl

theorem after_append (k : Cutter) (s t : Text) : k.after (s ++ t) = (k.after s).after t :=
  List.foldl_append

theorem after_concat (k : Cutter) (t : Text) (c : Char) :
    k.after (t ++ [c]) = ((k.after t).read c).2 := k.after_append t [c]

theorem pieces_append (k : Cutter) (s t : Text) :
    k.pieces (s ++ t) = k.pieces s ++ (k.after s).pieces t := by
  induction s generalizing k with
  | nil => rfl
  | cons c s ih => rw [List.cons_append, pieces_cons, pieces_cons, after_cons, ih,
      List.append_assoc]

theorem allPieces_cons (k : Cutter) (c : Char) (t : Text) :
    k.allPieces (c :: t) = (k.read c).1.toList ++ (k.read c).2.allPieces t := by
  rw [allPieces, allPieces, pieces_cons, after_cons, List.append_assoc]

theorem allPieces_append (k : Cutter) (s t : Text) :
    k.allPieces (s ++ t) = k.pieces s ++ (k.after s).allPieces t := by
  rw [allPieces, allPieces, pieces_append, after_append, List.append_assoc]

/-- The pieces handed out and the text still held make up what was read. -/
theorem flatMap_text_pieces (k : Cutter) (t : Text) :
    (k.pieces t).flatMap Piece.text ++ (k.after t).place.text = k.place.text ++ t := by
  induction t generalizing k with
  | nil => simp
  | cons c t ih =>
    rw [pieces_cons, after_cons, List.flatMap_append, List.append_assoc, ih, ← List.append_assoc,
      (k.step_read c).text_eq, List.append_assoc, List.singleton_append]

theorem text_lastPiece (k : Cutter) : k.lastPiece.text = k.place.text := by
  rw [lastPiece]
  split
  · rename_i p hp
    rw [hp]
    simp [Piece.text, Place.text]
  · rename_i selector body hp
    rw [hp]
    simp [Piece.text, Place.text]

theorem flatMap_text_allPieces (k : Cutter) (t : Text) :
    (k.allPieces t).flatMap Piece.text = k.place.text ++ t := by
  rw [allPieces, List.flatMap_append, List.flatMap_singleton, text_lastPiece, flatMap_text_pieces]

theorem balance_after (k : Cutter) (t : Text) : (k.after t).balance = k.balance.readAll t := by
  induction t generalizing k with
  | nil => rfl
  | cons c t ih =>
    rw [after_cons, ih]
    rfl

/-! ## What holds at every point -/

/-- What holds of a cutter at any point. The pending text is not blank while something is open
in it, and the body of a rule lies inside braces. -/
def Sound (k : Cutter) : Prop :=
  match k.place with
  | .outside p => p.Sound ∧ (k.balance ≠ .free → isBlank p.text = false)
  | .inside _ _ => 0 < k.balance.depth

theorem sound_start : Sound {} := ⟨Pending.sound_empty, fun h => absurd rfl h⟩

theorem Sound.pending {k : Cutter} (h : k.Sound) {p : Pending} (hp : k.place = .outside p) :
    p.Sound ∧ (k.balance ≠ .free → isBlank p.text = false) := by
  rw [Sound, hp] at h
  exact h

theorem Sound.depth_pos {k : Cutter} (h : k.Sound) {selector body : Text}
    (hp : k.place = .inside selector body) : 0 < k.balance.depth := by
  rw [Sound, hp] at h
  exact h

theorem Sound.step {k : Cutter} (h : k.Sound) {c : Char} {o : Option Piece} {place : Place}
    (hstep : k.Step c o place) : Sound ⟨k.balance.read c, place⟩ := by
  cases hstep with
  | declare p hp hfree hc =>
    refine ⟨Pending.sound_empty, fun hne => absurd ?_ hne⟩
    rw [hfree, hc]
    rfl
  | openRule p hp hfree hc hhash =>
    change 0 < (k.balance.read c).depth
    rw [hfree, hc]
    exact Nat.one_pos
  | closeRule selector body hp hbalance hc =>
    refine ⟨Pending.sound_empty, fun hne => absurd ?_ hne⟩
    rw [hbalance, hc]
    rfl
  | grow p q hp htext hsound hfree =>
    obtain ⟨hp, hblank⟩ := h.pending hp
    refine ⟨hsound hp, ?_⟩
    intro hne
    by_cases hb : k.balance = .free
    · -- the character has just opened something, so it is ink
      rw [hb] at hne
      obtain ⟨hdigit, hink⟩ := Mark.inked_of_opens (Balance.opens_of_read_free_ne hne)
      exact isBlank_eq_false_of_mem (by simp [htext]) hdigit hink
    · rw [htext]
      exact Bool.eq_false_iff.2 fun hq => Bool.eq_false_iff.1 (hblank hb) (isBlank_of_append hq)
  | growBody selector body hp hopen => exact Balance.depth_read_pos (h.depth_pos hp) hopen

theorem Sound.read {k : Cutter} (h : k.Sound) (c : Char) : (k.read c).2.Sound :=
  h.step (k.step_read c)

theorem Sound.after {k : Cutter} (h : k.Sound) (t : Text) : (k.after t).Sound := by
  induction t generalizing k with
  | nil => exact h
  | cons c t ih => exact ih (h.read c)

/-! ## Steps of a run -/

/-- A piece that a run hands out was handed out by one of its steps. -/
theorem exists_step_of_mem {k : Cutter} {t : Text} {ps qs : List Piece} {p : Piece}
    (h : k.pieces t = ps ++ p :: qs) :
    ∃ (x : Text) (c : Char) (y : Text), t = x ++ c :: y ∧ k.pieces x = ps ∧
      ((k.after x).read c).1 = some p ∧ ((k.after x).read c).2.pieces y = qs := by
  induction t generalizing k ps with
  | nil => simp at h
  | cons c t ih =>
    rw [pieces_cons] at h
    cases hstep : (k.read c).1 with
    | none =>
      -- nothing ends here, so the piece ends further on
      rw [hstep] at h
      obtain ⟨x, d, y, rfl, hx, hp, hq⟩ := ih h
      refine ⟨c :: x, d, y, rfl, ?_, hp, hq⟩
      rw [pieces_cons, hstep]
      exact hx
    | some q =>
      rw [hstep] at h
      -- the piece that ends here is the one in question, or the first of those before it
      cases ps with
      | nil =>
        obtain ⟨rfl, rest⟩ := List.cons.inj h
        exact ⟨[], c, t, rfl, rfl, hstep, rest⟩
      | cons r ps =>
        obtain ⟨rfl, rest⟩ := List.cons.inj h
        obtain ⟨x, d, y, rfl, hx, hp, hq⟩ := ih rest
        refine ⟨c :: x, d, y, rfl, ?_, hp, hq⟩
        rw [pieces_cons, hstep]
        exact congrArg (List.cons q) hx

/-- What holds of every piece that a step hands out holds of every piece of a run. -/
theorem forall_mem_pieces {P : Piece → Prop}
    (hstep : ∀ {k : Cutter} {c : Char} {p : Piece} {place : Place},
      k.Sound → k.Step c (some p) place → P p)
    {k : Cutter} (hk : k.Sound) {t : Text} {p : Piece} (hp : p ∈ k.pieces t) : P p := by
  obtain ⟨ps, qs, h⟩ := List.append_of_mem hp
  obtain ⟨x, c, y, -, -, hpiece, -⟩ := exists_step_of_mem h
  have hread := (k.after x).step_read c
  rw [hpiece] at hread
  exact hstep (hk.after x) hread

/-- Only the end of the source leaves a construct open. -/
theorem cause_of_mem_pieces {k : Cutter} (hk : k.Sound) {t : Text} {p : Piece}
    (hp : p ∈ k.pieces t) : p.cause = none := by
  apply forall_mem_pieces (P := fun p => p.cause = none) ?_ hk hp
  intro k c p place hk hstep
  cases hstep <;> rfl

/-- A cutter in the body of a rule got there by a brace at which nothing was open, and which did
not stand behind a hash. -/
theorem exists_openRule {x : Text} {selector body : Text}
    (h : (({} : Cutter).after x).place = .inside selector body) :
    ∃ (y : Text) (p : Pending), x = y ++ '{' :: body ∧ (({} : Cutter).after y).place = .outside p ∧
      (({} : Cutter).after y).balance = .free ∧ p.text.getLast? ≠ some '#' ∧
      p.settle.selector = selector := by
  -- induction from the end: the last character opened the rule or is the last one of its body
  induction x using List.reverseRecOn generalizing body with
  | nil => cases h
  | append_singleton x c ih =>
    rw [after_concat] at h
    have hstep := (({} : Cutter).after x).step_read c
    rw [h] at hstep
    generalize ((({} : Cutter).after x).read c).1 = o at hstep
    cases hstep with
    | openRule p hp hfree hc hhash =>
      rw [hc]
      exact ⟨x, p, rfl, hp, hfree, hhash, rfl⟩
    | growBody selector body hp hopen =>
      obtain ⟨y, p, rfl, hy⟩ := ih hp
      exact ⟨y, p, by simp, hy⟩

end Cutter

/-! ## The pieces of a source -/

/-- A source is the sequence of its pieces. -/
theorem flatMap_text_pieces (source : Text) : (pieces source).flatMap Piece.text = source :=
  Cutter.flatMap_text_allPieces {} source

/-- A declaration that lacks its semicolon, a rule behind it, and nothing at the end. -/
example : pieces ['a', '\n', 'b', '{', ';', '}'] =
    [{ head := ['a', '\n'] }, { head := ['b'], body := some [';'], closed := true },
      { head := [] }] := by decide

theorem exists_text_of_mem_pieces {source : Text} {p : Piece} (hp : p ∈ pieces source) :
    ∃ x y : Text, source = x ++ p.text ++ y := by
  obtain ⟨ps, qs, h⟩ := List.append_of_mem hp
  refine ⟨ps.flatMap Piece.text, qs.flatMap Piece.text, ?_⟩
  conv_lhs => rw [← flatMap_text_pieces source, h]
  rw [List.flatMap_append, List.flatMap_cons, List.append_assoc]

/-- The body that a block gives lies in its source behind the brace. -/
theorem exists_bodyText_of_mem_pieces {source : Text} {p : Piece} (hp : p ∈ pieces source)
    {body : Text} (hbody : p.body = some body) (options : SplitOptions) :
    ∃ x y : Text, x ≠ [] ∧ source = x ++ options.bodyText body ++ y := by
  obtain ⟨x, y, hsource⟩ := exists_text_of_mem_pieces hp
  obtain ⟨a, b, htrim⟩ : ∃ a b : Text, body = a ++ options.bodyText body ++ b := by
    rw [SplitOptions.bodyText]
    split
    · exact ⟨[], [], by simp⟩
    · obtain ⟨a, b, h, -⟩ := Text.exists_trimBy Unicode.isWhiteSpace body
      exact ⟨a, b, h⟩
  refine ⟨x ++ p.head ++ '{' :: a, b ++ (if p.closed then ['}'] else []) ++ y, by simp, ?_⟩
  -- the body is what trimming leaves of the text behind the brace
  rw [Piece.text, hbody] at hsource
  simp only at hsource
  conv at hsource =>
    rhs
    rw [htrim]
  simpa using hsource

end SheetLex
