import SheetLex.Proofs.Block.Printing
import SheetLex.Proofs.Block.Insertion
import SheetLex.Proofs.Block.Stretch

/-!
# A declaration and a rule on the next line

A line feed can end a declaration that has no semicolon: if a rule opens further on, its selector may
begin behind the line feed. The cutter takes it to begin there once it has read something on the line
and comes to a comma, or to the brace. A parenthesis that opens before that, or a comma with nothing
before it on the line, carries the selector on from the lines before.

So whether a declaration and a rule on the line behind it are separated depends on the selector alone
(`StandsAlone`), and `splitBlocks_separated_iff` says that it is as told by that. The two facts that
carry the proof are that at the end of the declaration a line feed has counted
(`Pending.loose_ofText_feed`), and that what the line of the selector does to the lead is settled by
its first comma or parenthesis (`Pending.lead_settle_nextAll`).
-/

set_option autoImplicit false

namespace SheetLex

open Cutter

/-- A text is not blank if it holds all characters of one that is not. -/
theorem isBlank_eq_false_of_subset {s t : Text} (hmark : hintMark ∉ t) (h : ∀ c ∈ s, c ∈ t)
    (hs : isBlank s = false) : isBlank t = false := by
  by_contra hblank
  rw [Bool.not_eq_false, isBlank_iff_of_not_mem hmark] at hblank
  have hs' : isBlank s = true :=
    (isBlank_iff_of_not_mem fun hmem => hmark (h _ hmem)).2 fun c hc => hblank c (h c hc)
  rw [hs'] at hs
  cases hs

/-! ## Texts without delimiters -/

/-- No character of the text, read from the count given, ends a stretch. -/
def Balance.Undivided (b : Balance) : Text → Prop
  | [] => True
  | c :: t => b.delimits c = false ∧ (b.read c).Undivided t

namespace Balance

variable {b : Balance} {t u v : Text} {c : Char}

theorem undivided_append : b.Undivided (u ++ v) ↔ b.Undivided u ∧ (b.readAll u).Undivided v := by
  induction u generalizing b with
  | nil => simp [Undivided, readAll_nil]
  | cons c u ih => rw [List.cons_append, Undivided, Undivided, readAll_cons, ih, and_assoc]

/-- If some character of a text ends a stretch, one of them is the first. -/
theorem exists_of_not_undivided (h : ¬ b.Undivided t) :
    ∃ u c v, t = u ++ c :: v ∧ b.Undivided u ∧ (b.readAll u).delimits c = true := by
  induction t generalizing b with
  | nil => exact absurd trivial h
  | cons c t ih =>
    cases hc : b.delimits c with
    | true => exact ⟨[], c, t, rfl, trivial, hc⟩
    | false =>
      obtain ⟨u, d, v, rfl, hu, hd⟩ := ih fun ht => h ⟨hc, ht⟩
      exact ⟨c :: u, d, v, rfl, ⟨hc, hu⟩, hd⟩

/-- No character of an undivided text ends a stretch there. -/
theorem Undivided.not_delimits (h : Balance.free.Undivided (u ++ c :: v)) :
    (after u).delimits c = false := (undivided_append.1 h).2.1

theorem delimits_comma : Balance.free.delimits ',' = true := by decide

theorem delimits_leftParen (h : b.quote = none) : b.delimits '(' = true :=
  decide_eq_true (.inl ⟨h, rfl⟩)

end Balance

namespace Pending

variable {p : Pending} {b : Balance} {c : Char} {s t u : Text}

theorem nextAll_of_undivided (h : b.Undivided t) (hfeed : '\n' ∉ t) (p : Pending) :
    p.nextAll b t = p.addAll t := by
  induction t generalizing b p with
  | nil => exact p.addAll_nil.symm
  | cons c t ih =>
    obtain ⟨hc, ht⟩ := h
    rw [List.mem_cons, not_or] at hfeed
    rw [nextAll, p.next_of_not_delimits hc fun h => hfeed.1 h.2.symm, ih ht hfeed.2, addAll_add]

/-- What becomes of the run: it goes on, or a new one begins behind a parenthesis that is opened
outside strings, behind a comma, or behind a line feed that counts. -/
theorem next_cases (p : Pending) (b : Balance) (c : Char) :
    p.next b c = p.add c ∨
      (b.quote = none ∧ c = '(' ∧ p.next b c = p.hold c false) ∨
      (b = .free ∧ c = ',' ∧ p.next b c = p.settle.hold c false) ∨
      (b = .free ∧ c = '\n' ∧ isBlank p.run = false ∧ p.next b c = p.settle.hold c true) := by
  cases hc : b.delimits c with
  | true =>
    rcases of_decide_eq_true hc with ⟨hquote, rfl⟩ | ⟨rfl, rfl⟩
    · exact .inr (.inl ⟨hquote, rfl, p.next_leftParen hquote⟩)
    · exact .inr (.inr (.inl ⟨rfl, rfl, rfl⟩))
  | false =>
    by_cases hfeed : b = .free ∧ c = '\n'
    · obtain ⟨rfl, rfl⟩ := hfeed
      have hbreak : p.next .free '\n' = p.breakLine '\n' := rfl
      rw [hbreak, breakLine]
      cases hblank : isBlank p.run with
      | true => exact .inl (if_pos rfl)
      | false => exact .inr (.inr (.inr ⟨rfl, rfl, rfl, if_neg Bool.false_ne_true⟩))
    · exact .inl (p.next_of_not_delimits hc hfeed)

theorem settle_of_not_loose (h : p.loose = false) : p.settle = p := by
  rw [settle, h, Bool.false_and, if_neg Bool.false_ne_true]

theorem settle_of_blank (h : isBlank p.run = true) : p.settle = p := by
  rw [settle, h, Bool.not_true, Bool.and_false, if_neg Bool.false_ne_true]

theorem settle_of_ink (hloose : p.loose = true) (h : isBlank p.run = false) :
    p.settle = { lead := p.lead ++ p.held, run := p.run } := by
  rw [settle, hloose, h, Bool.not_false, Bool.and_true, if_pos rfl]

/-- If the run cannot become the selector by itself, the lead stays as it is up to the end of the
line. -/
theorem lead_nextAll_of_not_loose (h : p.loose = false) (hfeed : '\n' ∉ t) (b : Balance) :
    (p.nextAll b t).lead = p.lead ∧ (p.nextAll b t).loose = false := by
  induction t generalizing b p with
  | nil => exact ⟨rfl, h⟩
  | cons c t ih =>
    rw [List.mem_cons, not_or] at hfeed
    have hstep : (p.next b c).lead = p.lead ∧ (p.next b c).loose = false := by
      rcases p.next_cases b c with hadd | ⟨-, -, hhold⟩ | ⟨-, -, hhold⟩ | ⟨-, hc, -, -⟩
      · rw [hadd]
        exact ⟨rfl, h⟩
      · rw [hhold]
        exact ⟨rfl, rfl⟩
      · rw [hhold, settle_of_not_loose h]
        exact ⟨rfl, rfl⟩
      · exact absurd hc.symm hfeed.1
    obtain ⟨hlead, hloose⟩ := ih hstep.2 hfeed.2 (b.read c)
    exact ⟨hlead.trans hstep.1, hloose⟩

/-! ## The line feed behind a declaration -/

/-- The run reaches back to the start of the text, to a line feed that counts, to a comma, or to a
parenthesis that is opened outside strings. -/
theorem run_ofText_cases (t : Text) :
    (ofText t).run = t ∨ (ofText t).loose = true ∨ (∃ u, t = u ++ ',' :: (ofText t).run) ∨
      ∃ u, t = u ++ '(' :: (ofText t).run ∧ (Balance.after u).quote = none := by
  induction t using List.reverseRecOn with
  | nil => exact .inl rfl
  | append_singleton t c ih =>
    rw [ofText_concat]
    rcases (ofText t).next_cases (Balance.after t) c with
      hadd | ⟨hquote, rfl, hhold⟩ | ⟨-, rfl, hhold⟩ | ⟨-, -, -, hhold⟩
    · -- the run goes on, from where it began
      have hrun : ((ofText t).add c).run = (ofText t).run ++ [c] := rfl
      rw [hadd, hrun]
      rcases ih with hstart | hloose | ⟨u, hu⟩ | ⟨u, hu, hquote⟩
      · exact .inl (congrArg (· ++ [c]) hstart)
      · exact .inr (.inl hloose)
      · refine .inr (.inr (.inl ⟨u, ?_⟩))
        simpa using congrArg (· ++ [c]) hu
      · refine .inr (.inr (.inr ⟨u, ?_, hquote⟩))
        simpa using congrArg (· ++ [c]) hu
    · rw [hhold]
      exact .inr (.inr (.inr ⟨t, rfl, hquote⟩))
    · rw [hhold]
      exact .inr (.inr (.inl ⟨t, rfl⟩))
    · rw [hhold]
      exact .inr (.inl rfl)

/-- A line feed has counted if the run is blank, the text is not, and no comma stands directly before
the run. -/
theorem loose_ofText (hmark : hintMark ∉ t) (hfree : Balance.after t = .free)
    (hink : isBlank t = false) (hcomma : ∀ u w, t = u ++ ',' :: w → isBlank w = false)
    (hrun : isBlank (ofText t).run = true) : (ofText t).loose = true := by
  rcases run_ofText_cases t with hstart | hloose | ⟨u, hu⟩ | ⟨u, hu, hquote⟩
  · rw [hstart, hink] at hrun
    cases hrun
  · exact hloose
  · rw [hcomma u _ hu] at hrun
    cases hrun
  · -- the parenthesis would still be open
    have hmargin : ∀ c ∈ (ofText t).run, isMargin c = true := by
      apply (isBlank_iff_of_not_mem ?_).1 hrun
      intro hmem
      apply hmark
      rw [hu]
      exact List.mem_append_right _ (List.mem_cons_of_mem _ hmem)
    rw [hu, List.append_cons, Balance.after_append_of_isMargin hmargin,
      Balance.after_concat] at hfree
    have hparens : ((Balance.after u).read '(').parens = (Balance.after u).parens + 1 := by
      rw [Balance.read, hquote]
      rfl
    rw [hfree] at hparens
    cases hparens

/-- Behind the line feed that follows, the run is blank and may become the selector by itself. -/
theorem loose_ofText_feed (hmark : hintMark ∉ t) (hfree : Balance.after t = .free)
    (hink : isBlank t = false) (hcomma : ∀ u w, t = u ++ ',' :: w → isBlank w = false) :
    (ofText (t ++ ['\n'])).loose = true ∧ isBlank (ofText (t ++ ['\n'])).run = true := by
  have hbreak : ofText (t ++ ['\n']) = (ofText t).breakLine '\n' := by
    rw [ofText_concat, hfree]
    rfl
  rw [hbreak, breakLine]
  cases hblank : isBlank (ofText t).run with
  | true =>
    rw [if_pos rfl]
    refine ⟨loose_ofText hmark hfree hink hcomma hblank, ?_⟩
    exact (isBlank_concat_of_isMargin rfl _).trans hblank
  | false =>
    rw [if_neg Bool.false_ne_true]
    exact ⟨rfl, isBlank_nil⟩

/-- What is held before a line feed that has counted is not blank. -/
theorem isBlank_held (hmark : hintMark ∉ t) (hloose : (ofText t).loose = true) :
    isBlank (ofText t).held = false := by
  induction t using List.reverseRecOn with
  | nil => cases hloose
  | append_singleton t c ih =>
    have hheld : hintMark ∉ (ofText (t ++ [c])).held := by
      intro hmem
      apply hmark
      rw [← text_ofText (t ++ [c]), text]
      exact List.mem_append_left _ (List.mem_append_right _ hmem)
    rw [ofText_concat] at hloose hheld ⊢
    rcases (ofText t).next_cases (Balance.after t) c with
      hadd | ⟨-, -, hhold⟩ | ⟨-, -, hhold⟩ | ⟨-, -, hink, hhold⟩
    · rw [hadd] at hloose ⊢
      exact ih (not_mem_of_concat hmark).1 hloose
    · rw [hhold] at hloose
      cases hloose
    · rw [hhold] at hloose
      cases hloose
    · -- the run is held from here on
      rw [hhold] at hheld ⊢
      apply isBlank_eq_false_of_subset hheld ?_ hink
      intro d hd
      simp [Pending.hold, hd]

end Pending

/-! ## The line of a selector -/

/-- The text, on a line by itself, makes a selector by itself, whatever stands on the lines before:
it does not begin with a comma, and before a parenthesis that opens outside strings stands a comma
outside all constructs. -/
structure StandsAlone (s : Text) : Prop where
  comma : ∀ u v, s = u ++ ',' :: v → isBlank u = false
  paren : ∀ u v, s = u ++ '(' :: v → (Balance.after u).quote = none →
    ∃ u₁ u₂, u = u₁ ++ ',' :: u₂ ∧ Balance.after u₁ = .free

section Line

variable {s u v : Text} {c : Char} {p : Pending}

/-- What blank text leaves open is nothing. -/
theorem Balance.after_of_isBlank (hmark : hintMark ∉ u) (hblank : isBlank u = true) :
    Balance.after u = .free := by
  have hmargin := (isBlank_iff_of_not_mem hmark).1 hblank
  have hafter := Balance.after_append_of_isMargin hmargin []
  rwa [List.nil_append] at hafter

/-- A text without delimiters stands alone. -/
theorem standsAlone_of_undivided (hmark : hintMark ∉ s) (h : Balance.free.Undivided s) :
    StandsAlone s := by
  constructor
  · rintro u v rfl
    by_contra hblank
    rw [Bool.not_eq_false] at hblank
    have hnot := h.not_delimits
    rw [Balance.after_of_isBlank (fun hmem => hmark (List.mem_append_left _ hmem)) hblank,
      Balance.delimits_comma] at hnot
    cases hnot
  · rintro u v rfl hquote
    have hnot := h.not_delimits
    rw [Balance.delimits_leftParen hquote] at hnot
    cases hnot

/-- If a parenthesis is the first delimiter, the text does not. -/
theorem not_standsAlone_of_paren (hu : Balance.free.Undivided u)
    (hquote : (Balance.after u).quote = none) : ¬ StandsAlone (u ++ '(' :: v) := by
  intro h
  obtain ⟨u₁, u₂, rfl, hfree⟩ := h.paren u v rfl hquote
  have hnot := hu.not_delimits
  rw [hfree, Balance.delimits_comma] at hnot
  cases hnot

/-- If a comma is the first delimiter, the text does if something stands before the comma. -/
theorem standsAlone_of_comma (hmark : hintMark ∉ u ++ ',' :: v) (hu : Balance.free.Undivided u)
    (hfree : Balance.after u = .free) : StandsAlone (u ++ ',' :: v) ↔ isBlank u = false := by
  refine ⟨fun h => h.comma u v rfl, fun hink => ?_⟩
  -- any other delimiter stands behind the comma
  have hbehind {a b : Text} {d : Char} (hd : (Balance.after a).delimits d = true)
      (h : u ++ ',' :: v = a ++ d :: b) : a = u ∨ ∃ m, a = u ++ ',' :: m := by
    rcases List.append_eq_append_iff.1 h with ⟨m, rfl, hm⟩ | ⟨m, rfl, hm⟩
    · cases m with
      | nil => exact .inl (List.append_nil _)
      | cons e m =>
        obtain ⟨rfl, -⟩ := List.cons.inj hm
        exact .inr ⟨m, rfl⟩
    · cases m with
      | nil => exact .inl (List.append_nil _).symm
      | cons e m =>
        obtain ⟨rfl, -⟩ := List.cons.inj hm
        have hnot := hu.not_delimits
        rw [hd] at hnot
        cases hnot
  constructor
  · intro a b h
    by_contra hblank
    rw [Bool.not_eq_false] at hblank
    have ha : hintMark ∉ a := fun hmem => hmark (h ▸ List.mem_append_left _ hmem)
    have hfree := Balance.after_of_isBlank ha hblank
    rcases hbehind (hfree ▸ Balance.delimits_comma) h with rfl | ⟨m, rfl⟩
    · rw [hink] at hblank
      cases hblank
    · rw [isBlank_of_append hblank] at hink
      cases hink
  · intro a b h hquote
    rcases hbehind (Balance.delimits_leftParen hquote) h with rfl | ⟨m, rfl⟩
    · have hcons := List.append_cancel_left h
      cases hcons
    · exact ⟨u, m, rfl, hfree⟩

/-- What the line of a selector does to the lead, behind a run that is blank and may become the
selector by itself: all that is held goes to the lead if the line stands alone, and otherwise
nothing does. -/
theorem Pending.lead_settle_nextAll (hmark : hintMark ∉ s) (hfeed : '\n' ∉ s)
    (hink : isBlank s = false) (hloose : p.loose = true) (hrun : isBlank p.run = true)
    (hrunMark : hintMark ∉ p.run) :
    (StandsAlone s → (p.nextAll .free (s ++ [' '])).settle.lead = p.lead ++ p.held) ∧
      (¬ StandsAlone s → (p.nextAll .free (s ++ [' '])).settle.lead = p.lead) := by
  have hrunBlank (t : Text) : isBlank (p.addAll t).run = isBlank t :=
    isBlank_congr (condense_append_left ((isBlank_iff_of_not_mem hrunMark).1 hrun) t)
  by_cases hdivided : Balance.free.Undivided s
  · -- all of the line goes to the run, and the selector settles at the brace
    refine ⟨fun _ => ?_, fun h => absurd (standsAlone_of_undivided hmark hdivided) h⟩
    have hspace : (Balance.free.readAll s).delimits ' ' = false := by simp [Balance.delimits]
    have hline : Balance.free.Undivided (s ++ [' ']) :=
      Balance.undivided_append.2 ⟨hdivided, hspace, trivial⟩
    have hinkLine : isBlank (p.addAll (s ++ [' '])).run = false := by
      rw [hrunBlank, isBlank_concat_of_isMargin rfl, hink]
    have hsettle : (p.addAll (s ++ [' '])).settle =
        { lead := p.lead ++ p.held, run := p.run ++ (s ++ [' ']) } :=
      Pending.settle_of_ink hloose hinkLine
    rw [Pending.nextAll_of_undivided hline (by simpa using hfeed), hsettle]
  · -- the first delimiter settles the matter
    obtain ⟨u, c, v, rfl, hu, hdelimits⟩ := Balance.exists_of_not_undivided hdivided
    have hc : (Balance.after u).delimits c = true := hdelimits
    simp only [List.mem_append, List.mem_cons, not_or] at hfeed
    have hrest {q : Pending} (hq : q.loose = false) :
        (q.nextAll ((Balance.after u).read c) (v ++ [' '])).settle.lead = q.lead := by
      have hbehind : '\n' ∉ v ++ [' '] := by simpa using hfeed.2.2
      obtain ⟨hlead, hstays⟩ :=
        Pending.lead_nextAll_of_not_loose hq hbehind ((Balance.after u).read c)
      rw [Pending.settle_of_not_loose hstays, hlead]
    have hnext : p.nextAll .free (u ++ c :: v ++ [' ']) =
        ((p.addAll u).next (Balance.after u) c).nextAll ((Balance.after u).read c) (v ++ [' ']) := by
      rw [List.append_assoc, Pending.nextAll_append, Pending.nextAll_of_undivided hu hfeed.1]
      rfl
    rw [hnext]
    rcases of_decide_eq_true hc with ⟨hquote, rfl⟩ | ⟨hfree, rfl⟩
    · refine ⟨fun h => absurd h (not_standsAlone_of_paren hu hquote), fun _ => ?_⟩
      rw [(p.addAll u).next_leftParen hquote]
      exact hrest rfl
    · have hcomma : (p.addAll u).next (Balance.after u) ',' =
          (p.addAll u).settle.hold ',' false := by
        rw [hfree]
        rfl
      rw [hcomma, standsAlone_of_comma hmark hu hfree, Bool.not_eq_false]
      constructor
      · intro hbefore
        have hsettle : (p.addAll u).settle = { lead := p.lead ++ p.held, run := p.run ++ u } :=
          Pending.settle_of_ink hloose ((hrunBlank u).trans hbefore)
        rw [hsettle]
        exact hrest rfl
      · intro hbefore
        rw [Pending.settle_of_blank ((hrunBlank u).trans hbefore)]
        exact hrest rfl

end Line

/-! ## The two blocks -/

/-- A text that can be a declaration or a selector: it holds no hint marks and leaves nothing open,
no character of it cuts anything, and it is not blank. -/
structure Phrase (t : Text) : Prop where
  unmarked : hintMark ∉ t
  closed : Balance.after t = .free
  uncut : Uncut t
  ink : isBlank t = false

instance : DecidablePred Phrase := fun t =>
  decidable_of_iff (hintMark ∉ t ∧ Balance.after t = .free ∧ Uncut t ∧ isBlank t = false)
    ⟨fun ⟨hmark, hfree, huncut, hink⟩ => ⟨hmark, hfree, huncut, hink⟩,
      fun h => ⟨h.unmarked, h.closed, h.uncut, h.ink⟩⟩

section Blocks

variable {x s t b : Text} {options : SplitOptions}

/-- An uncut text that leaves nothing open can be followed by another one. -/
theorem Uncut.append (hs : Uncut s) (hfree : Balance.after s = .free) (ht : Uncut t) :
    Uncut (s ++ t) := by
  intro y c z h
  rcases List.append_eq_append_iff.1 h with ⟨m, rfl, hm⟩ | ⟨m, rfl, hm⟩
  · intro hafter
    rw [Balance.after_append, hfree] at hafter
    obtain ⟨hsemicolon, hbrace⟩ := ht m c z hm hafter
    refine ⟨hsemicolon, fun hc => ?_⟩
    rw [List.getLast?_append, hbrace hc, Option.some_or]
  · cases m with
    | nil =>
      rw [List.append_nil] at hfree
      intro hafter
      obtain ⟨hsemicolon, hbrace⟩ := ht [] c z hm.symm rfl
      exact ⟨hsemicolon, fun hc => absurd (hbrace hc) (by decide)⟩
    | cons d m =>
      obtain ⟨rfl, rfl⟩ := List.cons.inj hm
      exact hs y c m rfl

theorem Phrase.closed_concat (ht : Phrase t) {c : Char} (hc : isMargin c = true) :
    Balance.after (t ++ [c]) = .free := by
  rw [Balance.after_concat, Balance.read_of_isMargin hc, ht.closed]

theorem Phrase.uncut_concat (ht : Phrase t) {c : Char} (hc : isMargin c = true) (hne : c ≠ ';') :
    Uncut (t ++ [c]) := by
  refine SheetLex.uncut_concat.2 ⟨ht.uncut, fun _ => ⟨hne, ?_⟩⟩
  rintro rfl
  cases hc

/-- The blocks of a closed rule behind a text without hints: what is cut off in front, unless it is
blank, and the rule. -/
theorem splitBlocks_rule (hmark : hintMark ∉ t) (huncut : Uncut t) (hfree : Balance.after t = .free)
    (hhash : t.getLast? ≠ some '#') (hb : Balance.after b = .free)
    (hwithin : Balance.free.StaysWithin b) (options : SplitOptions) :
    splitBlocks (t ++ '{' :: (b ++ ['}'])) options =
      (if isBlank (Pending.ofText t).settle.lead then []
        else [⟨.complete, 0, (condense (Pending.ofText t).settle.lead).text, none⟩]) ++
      [⟨.complete, 0, (condense (Pending.ofText t).settle.selector).text,
        some (options.bodyText b)⟩] := by
  obtain ⟨hpieces, hafter⟩ := read_rule huncut hfree hhash hwithin hb
  have htext : (Pending.ofText t).settle.lead ++ (Pending.ofText t).settle.selector = t := by
    rw [Pending.lead_append_selector, Pending.text_settle, Pending.text_ofText]
  generalize (Pending.ofText t).settle.lead = lead at hpieces htext ⊢
  generalize (Pending.ofText t).settle.selector = selector at hpieces htext ⊢
  subst htext
  rw [List.mem_append, not_or] at hmark
  have hlead : (condense lead).line = none := line_condense hmark.1
  have hselector : (condense selector).line = none := line_condense hmark.2
  have hrule : Piece.isSilent { head := selector, body := some b, closed := true } = false := rfl
  have hlast : Piece.isSilent (({} : Cutter).lastPiece) = true := rfl
  rw [splitBlocks_eq_report, pieces, allPieces, hpieces, hafter, List.cons_append, List.cons_append,
    List.nil_append, report_cons, report_cons, report_cons, Piece.yield_of_not_isSilent hrule,
    Piece.yield_of_isSilent hlast]
  cases hblank : isBlank lead with
  | true =>
    rw [Piece.yield_of_isSilent (show Piece.isSilent { head := lead } = true from hblank)]
    simp [Piece.block, Piece.hint?, hselector, report]
  | false =>
    rw [Piece.yield_of_not_isSilent (show Piece.isSilent { head := lead } = false from hblank)]
    simp [Piece.block, Piece.hint?, hselector, hlead, report]

/-- Condensing does not make up for characters that are missing. -/
theorem condense_append_ne (hmark : hintMark ∉ s ++ t) (hs : isBlank s = false) :
    (condense (s ++ t)).text ≠ (condense t).text := by
  intro h
  have hink {u : Text} (hu : hintMark ∉ u) :
      (condense u).text.filter (fun c => !isBlankChar c) = u.filter fun c => !isBlankChar c := by
    rw [filter_condense_text (fun c hc => by simp [isBlankChar, hc]) rfl rfl,
      withoutHintDigits_of_not_mem hu]
  have hst := hmark
  rw [List.mem_append, not_or] at hst
  have hkept := hink hmark
  rw [h, hink hst.2, List.filter_append] at hkept
  have hnone : s.filter (fun c => !isBlankChar c) = [] :=
    List.append_cancel_right (hkept.symm.trans (List.nil_append _).symm)
  have hblank : isBlank s = true := by
    rw [isBlank_iff, withoutHintDigits_of_not_mem hst.1]
    simpa [List.filter_eq_nil_iff] using hnone
  rw [hs] at hblank
  cases hblank

/-- The cut at the brace of a rule on the line behind a text that is not blank and does not end with a
comma. What is held at the end of that text goes to the lead if the line stands alone, and to the
selector otherwise. -/
theorem Pending.settle_separated (hx : Phrase x)
    (hcomma : ∀ u w, x = u ++ ',' :: w → isBlank w = false) (hs : Phrase s) (hline : '\n' ∉ s) :
    ∃ lead held run, lead ++ held ++ run = x ++ ['\n'] ∧ isBlank held = false ∧
      (∀ c ∈ run, isMargin c = true) ∧
      (StandsAlone s →
        (ofText (x ++ ['\n'] ++ (s ++ [' ']))).settle.lead = lead ++ held ∧
          (ofText (x ++ ['\n'] ++ (s ++ [' ']))).settle.selector = run ++ (s ++ [' '])) ∧
      (¬ StandsAlone s →
        (ofText (x ++ ['\n'] ++ (s ++ [' ']))).settle.lead = lead ∧
          (ofText (x ++ ['\n'] ++ (s ++ [' ']))).settle.selector =
            held ++ (run ++ (s ++ [' ']))) := by
  have hfeed : hintMark ∉ x ++ ['\n'] := by simpa [hintMark] using hx.unmarked
  obtain ⟨hloose, hrun⟩ := loose_ofText_feed hx.unmarked hx.closed hx.ink hcomma
  have hheld := isBlank_held hfeed hloose
  have htext : (ofText (x ++ ['\n'])).lead ++ (ofText (x ++ ['\n'])).held ++
      (ofText (x ++ ['\n'])).run = x ++ ['\n'] := text_ofText (x ++ ['\n'])
  have hrunMark : hintMark ∉ (ofText (x ++ ['\n'])).run := fun hmem =>
    hfeed (htext ▸ List.mem_append_right _ hmem)
  have hread : ofText (x ++ ['\n'] ++ (s ++ [' '])) =
      (ofText (x ++ ['\n'])).nextAll .free (s ++ [' ']) := by
    have hall : Balance.free.readAll (x ++ ['\n']) = .free := hx.closed_concat rfl
    rw [ofText, nextAll_append, hall]
    rfl
  obtain ⟨halone, hjoined⟩ :=
    lead_settle_nextAll hs.unmarked hline hs.ink hloose hrun hrunMark
  rw [← hread] at halone hjoined
  have hcut := (ofText (x ++ ['\n'] ++ (s ++ [' ']))).settle.lead_append_selector
  rw [text_settle, text_ofText] at hcut
  refine ⟨_, _, _, htext, hheld, (isBlank_iff_of_not_mem hrunMark).1 hrun, fun h => ?_, fun h => ?_⟩
  · refine ⟨halone h, List.append_cancel_left (hcut.trans ?_)⟩
    rw [halone h, ← List.append_assoc _ _ (s ++ [' ']), htext]
  · refine ⟨hjoined h, List.append_cancel_left (hcut.trans ?_)⟩
    rw [hjoined h, ← congrArg (· ++ (s ++ [' '])) htext]
    simp only [List.append_assoc]

/-- A declaration without a semicolon that does not end with a comma, and behind it, on a line by
itself, the selector of a rule: the two make a declaration and a rule exactly if the line of the
selector stands alone. -/
theorem splitBlocks_separated_iff (hx : Phrase x)
    (hcomma : ∀ u w, x = u ++ ',' :: w → isBlank w = false) (hs : Phrase s) (hline : '\n' ∉ s)
    (hb : Balance.after b = .free) (hwithin : Balance.free.StaysWithin b) (options : SplitOptions) :
    splitBlocks (x ++ '\n' :: s ++ ' ' :: '{' :: (b ++ ['}'])) options =
        [⟨.complete, 0, (condense x).text, none⟩,
          ⟨.complete, 0, (condense s).text, some (options.bodyText b)⟩] ↔
      StandsAlone s := by
  obtain ⟨lead, held, run, htext, hheld, hrun, halone, hjoined⟩ :=
    Pending.settle_separated hx hcomma hs hline
  -- the whole text before the brace can be read from the start
  have hmark : hintMark ∉ x ++ ['\n'] ++ (s ++ [' ']) := by
    simpa [hintMark] using And.intro hx.unmarked hs.unmarked
  have hfree : Balance.after (x ++ ['\n'] ++ (s ++ [' '])) = .free := by
    rw [Balance.after_append, hx.closed_concat rfl, ← Balance.after, hs.closed_concat rfl]
  have huncut : Uncut (x ++ ['\n'] ++ (s ++ [' '])) :=
    (hx.uncut_concat rfl (by decide)).append (hx.closed_concat rfl)
      (hs.uncut_concat rfl (by decide))
  have hhash : (x ++ ['\n'] ++ (s ++ [' '])).getLast? ≠ some '#' := by
    rw [← List.append_assoc, List.getLast?_concat]
    decide
  have hblocks := splitBlocks_rule hmark huncut hfree hhash hb hwithin options
  have hsource : x ++ '\n' :: s ++ ' ' :: '{' :: (b ++ ['}']) =
      x ++ ['\n'] ++ (s ++ [' ']) ++ '{' :: (b ++ ['}']) := by simp
  have hselector : condense (run ++ (s ++ [' '])) = condense s :=
    (condense_append_left hrun _).trans (condense_concat rfl s)
  rw [hsource, hblocks]
  constructor
  · intro h
    by_contra hnot
    obtain ⟨-, hcut⟩ := hjoined hnot
    have hlast : (condense (held ++ (run ++ (s ++ [' '])))).text = (condense s).text := by
      rw [hcut] at h
      simpa using congrArg List.getLast? h
    refine condense_append_ne (fun hmem => hmark ?_) hheld (hlast.trans (by rw [hselector]))
    rw [← htext, List.append_assoc, List.append_assoc]
    exact List.mem_append_right _ hmem
  · intro h
    obtain ⟨hlead, hcut⟩ := halone h
    have hdeclaration : condense (lead ++ held) = condense x := by
      rw [← condense_append_right hrun, htext, condense_concat rfl]
    rw [hlead, hcut, hselector, hdeclaration, isBlank_congr hdeclaration, hx.ink]
    rfl

/-- A list of selectors with a comma before its parentheses, behind a declaration with a comma. -/
theorem splitBlocks_separated_list :
    let x : Text := ['a', ',', 'b']
    let s : Text := ['c', ',', 'd', '(', '{', ')']
    let b : Text := ['e', '{', '}']
    Phrase x ∧ (∀ u w, x = u ++ ',' :: w → isBlank w = false) ∧ Phrase s ∧ '\n' ∉ s ∧
      Balance.after b = .free ∧ Balance.free.StaysWithin b ∧ StandsAlone s ∧
      splitBlocks (x ++ '\n' :: s ++ ' ' :: '{' :: (b ++ ['}'])) {} =
        [⟨.complete, 0, x, none⟩, ⟨.complete, 0, s, some b⟩] := by
  intro x s b
  have hx : Phrase x := by decide +kernel
  have hcomma : ∀ u w, x = u ++ ',' :: w → isBlank w = false := by
    intro u w h
    -- the comma is the second of the three characters
    obtain ⟨rfl, hw⟩ | ⟨v, rfl, hv⟩ := List.cons_eq_append_iff.1 h
    · cases hw
    · obtain ⟨rfl, hw⟩ | ⟨v, rfl, hv⟩ := List.cons_eq_append_iff.1 hv
      · cases hw
        rfl
      · simp [List.cons_eq_append_iff] at hv
  have hs : Phrase s := by decide +kernel
  have hline : '\n' ∉ s := by decide
  have hb : Balance.after b = .free := rfl
  have hwithin : Balance.free.StaysWithin b := by decide
  have hblocks : splitBlocks (x ++ '\n' :: s ++ ' ' :: '{' :: (b ++ ['}'])) {} =
      [⟨.complete, 0, (condense x).text, none⟩,
        ⟨.complete, 0, (condense s).text, some (({} : SplitOptions).bodyText b)⟩] := by
    decide +kernel
  exact ⟨hx, hcomma, hs, hline, hb, hwithin,
    (splitBlocks_separated_iff hx hcomma hs hline hb hwithin {}).1 hblocks, by decide +kernel⟩

/-- A line feed alone separates nothing: the selectors `b(c)` and ` ,b` on the line behind the
declaration `a` take it in, though neither of them starts with a comma. -/
theorem splitBlocks_joined :
    let x : Text := ['a']
    let s : Text := ['b', '(', 'c', ')']
    let t : Text := [' ', ',', 'b']
    (Phrase x ∧ ∀ u w, x = u ++ ',' :: w → isBlank w = false) ∧
      (Phrase s ∧ '\n' ∉ s ∧ s.head? ≠ some ',') ∧ (Phrase t ∧ '\n' ∉ t ∧ t.head? ≠ some ',') ∧
      splitBlocks (x ++ '\n' :: s ++ ' ' :: '{' :: ([] ++ ['}'])) {} =
        [⟨.complete, 0, x ++ '\n' :: s, some []⟩] ∧
      splitBlocks (x ++ '\n' :: t ++ ' ' :: '{' :: ([] ++ ['}'])) {} =
        [⟨.complete, 0, ['a', '\n', ',', 'b'], some []⟩] := by
  refine ⟨⟨by decide +kernel, fun u w h => ?_⟩, by decide +kernel, by decide +kernel,
    by decide +kernel, by decide +kernel⟩
  simp [List.cons_eq_append_iff] at h

end Blocks

end SheetLex
