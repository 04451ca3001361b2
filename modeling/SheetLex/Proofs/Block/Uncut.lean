import SheetLex.Proofs.Block.Body

/-!
# Texts that are not cut

A text is uncut if a cutter that reads it from the start finds neither the end of a declaration in
it nor the beginning of a rule (`Uncut`). All of it is then pending text, and `Pending.ofText` says
how that is divided into parts, by a scan that cuts nothing (`Cutter.after_of_uncut`). The heads of
all pieces are uncut (`uncut_head_of_mem_pieces`), those of rules included: the selector of a rule
may begin in the middle of the pending text, but reading it afresh divides it in the same way
(`Pending.Anchored`).
-/

set_option autoImplicit false

namespace SheetLex

/-! ## Reading without cutting -/

namespace Pending

/-- The pending text behind a character that cuts nothing. -/
def next (p : Pending) (b : Balance) (c : Char) : Pending :=
  if b = .free then
    match Mark.of c with
    | .comma => p.settle.hold c false
    | .lineFeed => p.breakLine c
    | _ => p.absorb b c
  else p.absorb b c

/-- What a character can do to the parts of pending text with a run that is blank, or that is
not. -/
inductive Turn (b : Balance) (c : Char) (blank : Bool) : Prop where
  /-- The run goes on. -/
  | add : (∀ p : Pending, isBlank p.run = blank → p.next b c = p.add c) → Turn b c blank
  /-- A parenthesis opens: a new run begins. -/
  | hold : (∀ p : Pending, p.next b c = p.hold c false) → Turn b c blank
  /-- A comma, or a line feed that counts: the selector settles, and a new run begins. -/
  | settle (loose : Bool) : b = .free → (loose = true → c = '\n') →
      (∀ p : Pending, isBlank p.run = blank → p.next b c = p.settle.hold c loose) → Turn b c blank

theorem turn (b : Balance) (c : Char) (blank : Bool) : Turn b c blank := by
  have absorbed (h : ∀ p : Pending, p.next b c = p.absorb b c) : Turn b c blank := by
    by_cases hparen : b.quote = none ∧ Mark.of c = .leftParen
    · refine .hold fun p => ?_
      rw [h, absorb, if_pos hparen]
    · refine .add fun p _ => ?_
      rw [h, absorb, if_neg hparen]
  by_cases hfree : b = .free
  · cases hmark : Mark.of c with
    | comma =>
      refine .settle false hfree (fun h => absurd h Bool.false_ne_true) fun p _ => ?_
      rw [next, if_pos hfree, hmark]
    | lineFeed =>
      -- the line feed counts if the run is not blank
      have hc : c = '\n' := Mark.eq_of_of_eq hmark rfl
      cases blank with
      | true =>
        refine .add fun p hp => ?_
        rw [next, if_pos hfree, hmark]
        exact if_pos hp
      | false =>
        refine .settle true hfree (fun _ => hc) fun p hp => ?_
        rw [next, if_pos hfree, hmark]
        exact if_neg (by rw [hp]; decide)
    | _ =>
      refine absorbed fun p => ?_
      rw [next, if_pos hfree, hmark]
  · refine absorbed fun p => ?_
    rw [next, if_neg hfree]

@[simp] theorem text_next (p : Pending) (b : Balance) (c : Char) :
    (p.next b c).text = p.text ++ [c] := by
  cases turn b c (isBlank p.run) with
  | add h => rw [h p rfl, text_add]
  | hold h => rw [h p, text_hold]
  | settle loose hfree hc h => rw [h p rfl, text_hold, text_settle]

theorem Sound.next {p : Pending} (hp : p.Sound) (b : Balance) (c : Char) : (p.next b c).Sound := by
  cases turn b c (isBlank p.run) with
  | add h =>
    rw [h p rfl]
    exact hp.add c
  | hold h =>
    rw [h p]
    exact hp.hold fun h => absurd h Bool.false_ne_true
  | settle loose hfree hc h =>
    rw [h p rfl]
    exact hp.settle.hold hc

/-- A character outside rules cuts off a declaration, opens a rule, or cuts nothing. -/
theorem read_eq (p : Pending) (b : Balance) (c : Char) :
    p.read b c =
      if b = .free ∧ c = ';' then (some { head := p.text, closed := true }, .outside {})
      else if b = .free ∧ c = '{' ∧ p.text.getLast? ≠ some '#' then
        (some { head := p.settle.lead }, .inside p.settle.selector [])
      else (none, .outside (p.next b c)) := by
  by_cases hsemicolon : b = .free ∧ c = ';'
  · obtain ⟨rfl, rfl⟩ := hsemicolon
    rfl
  rw [if_neg hsemicolon, Pending.read, Pending.next]
  by_cases hfree : b = .free
  · cases hmark : Mark.of c with
    | semicolon => exact absurd ⟨hfree, Mark.eq_of_of_eq hmark rfl⟩ hsemicolon
    | leftBrace =>
      obtain rfl := Mark.eq_of_of_eq hmark (d := '{') rfl
      simp only [hfree, true_and]
      by_cases hhash : p.text.getLast? = some '#'
      · rw [if_pos hhash, if_neg (not_not_intro hhash)]
        rfl
      · rw [if_neg hhash, if_pos hhash]
        rfl
    | _ =>
      have hbrace : c ≠ '{' := by
        rintro rfl
        cases hmark
      have hopens : ¬ (b = .free ∧ c = '{' ∧ p.text.getLast? ≠ some '#') := fun h => hbrace h.2.1
      rw [if_neg hopens, if_pos hfree, if_pos hfree]
  · have hopens : ¬ (b = .free ∧ c = '{' ∧ p.text.getLast? ≠ some '#') := fun h => hfree h.1
    rw [if_neg hopens, if_neg hfree, if_neg hfree]

/-- The pending text behind a text, read from the count given, that is not cut. -/
def nextAll (p : Pending) (b : Balance) : Text → Pending
  | [] => p
  | c :: t => (p.next b c).nextAll (b.read c) t

/-- A text as pending text. -/
def ofText (t : Text) : Pending := ({} : Pending).nextAll .free t

theorem nextAll_append (p : Pending) (b : Balance) (s t : Text) :
    p.nextAll b (s ++ t) = (p.nextAll b s).nextAll (b.readAll s) t := by
  induction s generalizing p b with
  | nil => rfl
  | cons c s ih => exact ih (p.next b c) (b.read c)

theorem ofText_concat (t : Text) (c : Char) :
    ofText (t ++ [c]) = (ofText t).next (Balance.after t) c := nextAll_append {} .free t [c]

@[simp] theorem text_ofText (t : Text) : (ofText t).text = t := by
  induction t using List.reverseRecOn with
  | nil => rfl
  | append_singleton t c ih => rw [ofText_concat, text_next, ih]

theorem sound_ofText (t : Text) : (ofText t).Sound := by
  induction t using List.reverseRecOn with
  | nil => exact sound_empty
  | append_singleton t c ih =>
    rw [ofText_concat]
    exact ih.next _ c

end Pending

/-! ## Uncut texts -/

/-- A character cuts nothing behind a text: it is no semicolon and no brace of a rule, or
something is open. -/
def Passes (t : Text) (c : Char) : Prop :=
  Balance.after t = .free → c ≠ ';' ∧ (c = '{' → t.getLast? = some '#')

/-- No character of the text cuts anything. -/
def Uncut (t : Text) : Prop := ∀ x c y, t = x ++ c :: y → Passes x c

theorem uncut_nil : Uncut [] := by
  intro x c y h
  simp at h

theorem Uncut.of_append {s t : Text} (h : Uncut (s ++ t)) : Uncut s := by
  rintro x c y rfl
  exact h x c (y ++ t) (by simp)

theorem uncut_concat {t : Text} {c : Char} : Uncut (t ++ [c]) ↔ Uncut t ∧ Passes t c := by
  constructor
  · intro h
    exact ⟨h.of_append, h t c [] rfl⟩
  · rintro ⟨ht, hc⟩ x d y h
    -- the last character is the one in question, or one behind it
    rcases List.eq_nil_or_concat y with rfl | ⟨y, e, rfl⟩
    · obtain ⟨rfl, hd⟩ := List.append_inj' h rfl
      obtain rfl := List.singleton_inj.1 hd
      exact hc
    · rw [List.concat_eq_append, ← List.cons_append, ← List.append_assoc] at h
      obtain ⟨rfl, -⟩ := List.append_inj' h rfl
      exact ht x d y rfl

/-- What follows a point at which nothing is open is uncut by itself, unless a hash stands before
the point. -/
theorem Uncut.suffix {s t : Text} (h : Uncut (s ++ t)) (hfree : Balance.after s = .free)
    (hhash : s.getLast? ≠ some '#') : Uncut t := by
  rintro x c y rfl hx
  have hafter : Balance.after (s ++ x) = .free := by
    rw [Balance.after_append, hfree]
    exact hx
  obtain ⟨hsemicolon, hbrace⟩ := h (s ++ x) c y (by simp) hafter
  refine ⟨hsemicolon, ?_⟩
  intro hc
  have hlast := hbrace hc
  rw [List.getLast?_append] at hlast
  cases hx : x.getLast? with
  | none =>
    rw [hx, Option.none_or] at hlast
    exact absurd hlast hhash
  | some d =>
    rw [hx, Option.some_or] at hlast
    exact hlast

theorem Pending.read_of_passes {p : Pending} {c : Char} (h : Passes p.text c) :
    p.read (Balance.after p.text) c = (none, .outside (p.next (Balance.after p.text) c)) := by
  have hsemicolon : ¬ (Balance.after p.text = .free ∧ c = ';') := fun hc => (h hc.1).1 hc.2
  have hbrace : ¬ (Balance.after p.text = .free ∧ c = '{' ∧ p.text.getLast? ≠ some '#') :=
    fun hc => hc.2.2 ((h hc.1).2 hc.2.1)
  rw [Pending.read_eq, if_neg hsemicolon, if_neg hbrace]

/-- A cutter reads an uncut text without handing anything out. -/
theorem Cutter.after_of_uncut {t : Text} (h : Uncut t) :
    ({} : Cutter).pieces t = [] ∧
      ({} : Cutter).after t = ⟨Balance.after t, .outside (Pending.ofText t)⟩ := by
  induction t using List.reverseRecOn with
  | nil => exact ⟨rfl, rfl⟩
  | append_singleton t c ih =>
    obtain ⟨ht, hc⟩ := uncut_concat.1 h
    obtain ⟨hpieces, hafter⟩ := ih ht
    have hread : read ⟨Balance.after t, .outside (Pending.ofText t)⟩ c =
        (none, ⟨Balance.after (t ++ [c]), .outside (Pending.ofText (t ++ [c]))⟩) := by
      have hpending := Pending.read_of_passes (p := Pending.ofText t) (c := c)
        (by rw [Pending.text_ofText]; exact hc)
      rw [Pending.text_ofText] at hpending
      rw [read, readAt]
      simp only [hpending]
      rw [Pending.ofText_concat, Balance.after_concat]
    rw [pieces_append, after_concat, hpieces, hafter, pieces_cons, hread]
    exact ⟨rfl, rfl⟩

/-- Outside rules, what is pending is an uncut text, divided as it is when read from the start. -/
theorem Cutter.pending_of_outside {x : Text} {p : Pending}
    (h : (({} : Cutter).after x).place = .outside p) :
    Uncut p.text ∧ p = Pending.ofText p.text ∧
      Balance.after p.text = (({} : Cutter).after x).balance := by
  induction x using List.reverseRecOn generalizing p with
  | nil =>
    obtain rfl : {} = p := Place.outside.inj h
    exact ⟨uncut_nil, rfl, rfl⟩
  | append_singleton x c ih =>
    rw [after_concat] at h ⊢
    have hbalance : ((({} : Cutter).after x).read c).2.balance =
        (({} : Cutter).after x).balance.read c := rfl
    have hstep := (({} : Cutter).after x).step_read c
    rw [hbalance]
    rw [h] at hstep
    generalize hpiece : ((({} : Cutter).after x).read c).1 = o at hstep
    cases hstep with
    | declare p hp hfree hc =>
      rw [hfree, hc]
      exact ⟨uncut_nil, rfl, rfl⟩
    | closeRule selector body hp hdepth hc =>
      rw [hdepth, hc]
      exact ⟨uncut_nil, rfl, rfl⟩
    | grow q q' hp htext hsound hfree =>
      obtain ⟨huncut, hq, hafter⟩ := ih hp
      have hpasses : Passes q.text c := by
        intro hopen
        exact hfree (hafter ▸ hopen)
      -- the step is that of the scan that cuts nothing
      have hread : (({} : Cutter).after x).readAt c =
          q.read (({} : Cutter).after x).balance c := by
        rw [readAt, hp]
      have hplace : ((({} : Cutter).after x).readAt c).2 = .outside p := h
      rw [hread, ← hafter, Pending.read_of_passes hpasses] at hplace
      obtain rfl := Place.outside.inj hplace
      rw [Pending.text_next]
      refine ⟨uncut_concat.2 ⟨huncut, hpasses⟩, ?_, ?_⟩
      · rw [Pending.ofText_concat, ← hq]
      · rw [Balance.after_concat, hafter]

/-- A text is uncut if the cutter takes all of it to be pending. -/
theorem uncut_iff {t : Text} :
    Uncut t ↔ (({} : Cutter).after t).place = .outside (Pending.ofText t) := by
  refine ⟨fun h => by rw [(Cutter.after_of_uncut h).2], fun h => ?_⟩
  have huncut := (Cutter.pending_of_outside h).1
  rwa [Pending.text_ofText] at huncut

instance : DecidablePred Uncut := fun _ => decidable_of_iff _ uncut_iff.symm

/-! ## Leads and selectors -/

namespace Pending

/-- What holds of the parts of a text read from the start. Nothing is open behind the lead, nor
behind whatever may still become part of it, and what follows there, read from the start, is
divided as it is behind the lead. -/
structure Anchored (p : Pending) : Prop where
  lead : Balance.after p.lead = .free
  held : p.loose = true → Balance.after (p.lead ++ p.held) = .free
  selector : ofText p.selector = { p with lead := [] }
  run : p.loose = true → ofText p.run = { run := p.run }

/-- Once settled, pending text stays as it is. -/
theorem settle_of_settled (p : Pending) :
    ({ p.settle with lead := [] } : Pending).settle = { p.settle with lead := [] } := by
  rw [settle]
  split
  · rename_i hsettles
    simp only at hsettles
    rw [settle] at hsettles
    split at hsettles
    · cases hsettles
    · rename_i hstays
      exact absurd hsettles hstays
  · rfl

@[simp] theorem run_settle (p : Pending) : p.settle.run = p.run := by
  rw [settle]
  split <;> rfl

theorem Anchored.settle {p : Pending} (h : p.Anchored) : p.settle.Anchored := by
  rw [Pending.settle]
  split
  · rename_i hsettles
    have hloose := ((Bool.and_eq_true _ _).mp hsettles).1
    refine ⟨h.held hloose, ?_, h.run hloose, ?_⟩
    · intro hfalse
      cases hfalse
    · intro hfalse
      cases hfalse
  · exact h

theorem Anchored.after_selector {p : Pending} (h : p.Anchored) :
    Balance.after p.selector = Balance.after p.text := by
  rw [← p.lead_append_selector, Balance.after_append, h.lead]
  rfl

theorem Anchored.next {p : Pending} (h : p.Anchored) (c : Char) :
    (p.next (Balance.after p.text) c).Anchored := by
  cases turn (Balance.after p.text) c (isBlank p.run) with
  | add hnext =>
    rw [hnext p rfl]
    refine ⟨h.lead, h.held, ?_, ?_⟩
    · have hselector : (p.add c).selector = p.selector ++ [c] := by simp [add, Pending.selector]
      rw [hselector, ofText_concat, h.selector, h.after_selector,
        hnext { p with lead := [] } rfl]
      rfl
    · intro hloose
      have hafter : Balance.after p.run = Balance.after p.text := by
        rw [text, Balance.after_append, h.held hloose]
        rfl
      rw [add]
      simp only
      rw [ofText_concat, h.run hloose, hafter, hnext { run := p.run } rfl]
      rfl
  | hold hnext =>
    rw [hnext p]
    refine ⟨h.lead, ?_, ?_, ?_⟩
    · intro hloose
      cases hloose
    · have hselector : (p.hold c false).selector = p.selector ++ [c] := by
        simp [Pending.hold, Pending.selector]
      rw [hselector, ofText_concat, h.selector, h.after_selector, hnext]
      rfl
    · intro hloose
      cases hloose
  | settle loose hfree hc hnext =>
    rw [hnext p rfl]
    have hsettled := h.settle
    have hafter := hsettled.after_selector
    rw [text_settle] at hafter
    refine ⟨hsettled.lead, ?_, ?_, ?_⟩
    · -- a line feed leaves open what was open before it, which is nothing
      intro hloose
      obtain rfl := hc hloose
      have htext : (p.settle.hold '\n' loose).lead ++ (p.settle.hold '\n' loose).held =
          p.text ++ ['\n'] := by
        rw [← text_settle p]
        simp [Pending.hold, text]
      rw [htext, Balance.after_concat, hfree]
      rfl
    · have hselector : (p.settle.hold c loose).selector = p.settle.selector ++ [c] := by
        simp [Pending.hold, Pending.selector]
      rw [hselector, ofText_concat, hsettled.selector, hafter, hnext _ (by simp),
        settle_of_settled]
      rfl
    · intro hloose
      rfl

theorem anchored_ofText (t : Text) : (ofText t).Anchored := by
  induction t using List.reverseRecOn with
  | nil => exact ⟨rfl, fun _ => rfl, rfl, fun _ => rfl⟩
  | append_singleton t c ih =>
    have hnext := ih.next c
    rw [text_ofText] at hnext
    rw [ofText_concat]
    exact hnext

end Pending

/-! ## Heads of pieces -/

/-- What the head of a piece is like if nothing is left open: read from the start it is cut
nowhere, nothing is open behind it, and if it is the selector of a rule, no declaration is cut off
its front. -/
structure Piece.Rereads (p : Piece) : Prop where
  uncut : Uncut p.head
  free : Balance.after p.head = .free
  lead : p.body.isSome = true → (Pending.ofText p.head).settle.lead = []

/-- Of an uncut text behind which nothing is open, both the lead and the selector are uncut. -/
theorem Uncut.settle {t : Text} (h : Uncut t) (hfree : Balance.after t = .free) :
    (Uncut (Pending.ofText t).settle.lead ∧
      Balance.after (Pending.ofText t).settle.lead = .free) ∧
    Uncut (Pending.ofText t).settle.selector ∧
      Balance.after (Pending.ofText t).settle.selector = .free ∧
      (Pending.ofText (Pending.ofText t).settle.selector).settle.lead = [] := by
  have hanchored := (Pending.anchored_ofText t).settle
  have hsound := (Pending.sound_ofText t).settle
  have hsplit : t = (Pending.ofText t).settle.lead ++ (Pending.ofText t).settle.selector := by
    rw [Pending.lead_append_selector, Pending.text_settle, Pending.text_ofText]
  have hselector := hanchored.after_selector
  rw [Pending.text_settle, Pending.text_ofText, hfree] at hselector
  rw [hsplit] at h
  refine ⟨⟨h.of_append, hanchored.lead⟩, h.suffix hanchored.lead ?_, hselector, ?_⟩
  · -- the lead ends with a line feed
    rcases hsound.lead_end with hlead | hlead
    · rw [hlead]
      decide
    · rw [hlead]
      decide
  · rw [hanchored.selector, Pending.settle_of_settled]

/-- The head of a piece that reports nothing is cut nowhere if it is read from the start. -/
theorem rereads_of_mem_pieces {source : Text} {p : Piece} (hp : p ∈ pieces source)
    (hcause : p.cause = none) : p.Rereads := by
  obtain ⟨qs, rs, h⟩ := List.append_of_mem hp
  -- nothing but the head is wanted of a declaration
  have declaration {q : Pending} {x : Text} (hplace : (({} : Cutter).after x).place = .outside q)
      (hfree : (({} : Cutter).after x).balance = .free) (closed : Bool) :
      Piece.Rereads { head := q.text, closed } := by
    obtain ⟨huncut, -, hafter⟩ := Cutter.pending_of_outside hplace
    exact ⟨huncut, hafter.trans hfree, fun hbody => by cases hbody⟩
  rcases Cutter.exists_step_of_pieces h with ⟨-, -, rfl⟩ | ⟨x, c, y, place, -, -, hstep⟩
  · -- at the end of the source nothing is open, so the last piece is a declaration
    rw [Cutter.cause_lastPiece, Balance.openConstruct?_eq_none_iff] at hcause
    obtain ⟨q, hq⟩ := (Cutter.sound_after_start source).exists_outside hcause
    rw [Cutter.lastPiece, hq]
    simp only
    rw [(Balance.openConstruct?_eq_none_iff _).2 hcause]
    exact declaration hq hcause false
  · cases hstep with
    | declare q hq hfree hc => exact declaration hq hfree true
    | openRule q hq hfree hc hhash =>
      obtain ⟨huncut, hpending, hafter⟩ := Cutter.pending_of_outside hq
      obtain ⟨⟨hlead, hleadFree⟩, -⟩ := huncut.settle (hafter.trans hfree)
      rw [← hpending] at hlead hleadFree
      exact ⟨hlead, hleadFree, fun hbody => by cases hbody⟩
    | closeRule selector body hplace hbalance hc =>
      obtain ⟨z, q, -, hq, hfree, -, rfl⟩ := Cutter.exists_openRule hplace
      obtain ⟨huncut, hpending, hafter⟩ := Cutter.pending_of_outside hq
      obtain ⟨-, hselector, hselectorFree, hlead⟩ := huncut.settle (hafter.trans hfree)
      rw [← hpending] at hselector hselectorFree hlead
      exact ⟨hselector, hselectorFree, fun _ => hlead⟩

end SheetLex
