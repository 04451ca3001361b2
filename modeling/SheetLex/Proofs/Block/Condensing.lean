import SheetLex.Proofs.Layout.Gap
import SheetLex.Proofs.Block.Uncut

/-!
# Reading condensed heads

The condensed form of an uncut text without hint marks is uncut as well, and what is open behind
both is the same, although condensing drops line feeds, padding and semicolons even inside strings
and parentheses (`follows_condense`). What is dropped opens and closes nothing. It may move the
parts of the pending text, but not what depends on them: whether there is a lead, whether the run
is blank and whether it may become the selector by itself (`Pending.Similar`). So if no declaration
is cut off the front of a selector, none is cut off the front of its condensed form
(`lead_condense`).
-/

set_option autoImplicit false

namespace SheetLex

/-- A blank character opens and closes nothing. -/
theorem Balance.read_of_isMargin {c : Char} (h : isMargin c = true) (b : Balance) :
    b.read c = b := by
  obtain ⟨quote, parens, depth⟩ := b
  rcases isMargin_cases h with h | rfl
  · rcases Line.isPadding_cases h with rfl | rfl | rfl | rfl <;> cases quote <;> rfl
  · cases quote <;> rfl

theorem Balance.after_append_of_isMargin {w : Text} (h : ∀ c ∈ w, isMargin c = true) (t : Text) :
    after (t ++ w) = after t := by
  induction w using List.reverseRecOn with
  | nil => rw [List.append_nil]
  | append_singleton w c ih =>
    rw [← List.append_assoc, after_concat, read_of_isMargin (h c (by simp))]
    exact ih fun d hd => h d (List.mem_append_left _ hd)

/-! ## Similar pending texts -/

namespace Pending

/-- Two pending texts on which what follows has the same effect: in neither or in both there is a
lead, the run is blank, and the run may become the selector by itself. -/
structure Similar (p q : Pending) : Prop where
  loose : p.loose = q.loose
  blank : isBlank p.run = isBlank q.run
  lead : p.lead = [] ↔ q.lead = []

variable {p q r : Pending}

theorem Similar.refl (p : Pending) : Similar p p := ⟨rfl, rfl, Iff.rfl⟩

theorem Similar.trans (h : Similar p q) (h' : Similar q r) : Similar p r :=
  ⟨h.loose.trans h'.loose, h.blank.trans h'.blank, h.lead.trans h'.lead⟩

theorem Similar.settle (h : Similar p q) (hp : p.Sound) (hq : q.Sound) :
    Similar p.settle q.settle := by
  have hne {p : Pending} (hp : p.Sound) (hloose : p.loose = true) : p.lead ++ p.held ≠ [] :=
    fun hnil => hp.held_ne_nil hloose (List.append_eq_nil_iff.1 hnil).2
  rw [Pending.settle, Pending.settle, h.loose, h.blank]
  split
  · -- the held part goes to the lead, which is then there on both sides
    rename_i hsettles
    have hloose := ((Bool.and_eq_true _ _).mp hsettles).1
    exact ⟨rfl, h.blank, iff_of_false (hne hp (h.loose.trans hloose)) (hne hq hloose)⟩
  · exact h

theorem not_mem_run {p : Pending} (h : hintMark ∉ p.text) : hintMark ∉ p.run :=
  fun hmem => h (List.mem_append_right _ hmem)

theorem isBlank_add {c : Char} (hp : hintMark ∉ p.text ++ [c]) :
    isBlank (p.add c).run = (isBlank p.run && isMargin c) := by
  apply isBlank_concat
  obtain ⟨hmark, hc⟩ := not_mem_of_concat hp
  simp [not_mem_run hmark, hc.symm]

theorem Similar.next (h : Similar p q) (hp : p.Sound) (hq : q.Sound) {c : Char}
    (hmark : hintMark ∉ p.text ++ [c]) (hmark' : hintMark ∉ q.text ++ [c]) (b : Balance) :
    Similar (p.next b c) (q.next b c) := by
  cases turn b c (isBlank p.run) with
  | add hnext =>
    rw [hnext p rfl, hnext q h.blank.symm]
    refine ⟨h.loose, ?_, h.lead⟩
    rw [isBlank_add hmark, isBlank_add hmark', h.blank]
  | hold hnext =>
    rw [hnext p, hnext q]
    exact ⟨rfl, rfl, h.lead⟩
  | settle loose hfree hc hnext =>
    rw [hnext p rfl, hnext q h.blank.symm]
    exact ⟨rfl, rfl, (h.settle hp hq).lead⟩

/-! ## Blank characters -/

theorem next_of_isPadding {c : Char} (hc : Line.isPadding c = true) (p : Pending) (b : Balance) :
    p.next b c = p.add c := by
  have hmark : Mark.of c = .plain ∨ Mark.of c = .semicolon := by
    rcases Line.isPadding_cases hc with rfl | rfl | rfl | rfl <;> decide
  rcases hmark with hmark | hmark
  · simp [next, absorb, hmark]
  · simp [next, absorb, hmark]

theorem next_feed (p : Pending) (b : Balance) :
    p.next b '\n' = if b = .free then p.breakLine '\n' else p.add '\n' := by
  have hmark : Mark.of '\n' = .lineFeed := rfl
  rw [next, hmark]
  split
  · rfl
  · rw [absorb, if_neg (by simp [hmark])]

theorem similar_add {c : Char} (hc : isMargin c = true) (p : Pending) : Similar (p.add c) p :=
  ⟨rfl, isBlank_concat_of_isMargin hc p.run, Iff.rfl⟩

/-- A line feed behind a blank run changes nothing that matters. -/
theorem similar_next_feed (h : isBlank p.run = true) (b : Balance) :
    Similar (p.next b '\n') p := by
  rw [next_feed]
  split
  · rw [breakLine, if_pos h]
    exact similar_add rfl p
  · exact similar_add rfl p

/-- Nor does a second line feed. -/
theorem similar_feed_feed (p : Pending) (b : Balance) :
    Similar ((p.next b '\n').next b '\n') (p.next b '\n') := by
  by_cases hfree : b = .free
  · apply similar_next_feed
    rw [next_feed, if_pos hfree, breakLine]
    split
    · rename_i hblank
      exact (isBlank_concat_of_isMargin rfl p.run).trans hblank
    · rfl
  · rw [next_feed _ b, if_neg hfree]
    exact similar_add rfl _

/-- A blank character has no part in whether a declaration is cut off the front. -/
theorem lead_settle_next {c : Char} (hc : isMargin c = true) (p : Pending) (b : Balance) :
    (p.next b c).settle.lead = p.settle.lead := by
  have hadd : (p.add c).settle.lead = p.settle.lead := by
    have hblank : isBlank (p.add c).run = isBlank p.run := isBlank_concat_of_isMargin hc p.run
    rw [Pending.settle, Pending.settle, hblank]
    change (if (p.loose && !isBlank p.run) = true then _ else _ : Pending).lead = _
    split <;> rfl
  rcases isMargin_cases hc with hpadding | rfl
  · rw [next_of_isPadding hpadding]
    exact hadd
  · rw [next_feed]
    split
    · rw [breakLine]
      split
      · exact hadd
      · -- the new run is blank, so nothing more settles
        rw [Pending.settle]
        simp [Pending.hold, isBlank_nil]
    · exact hadd

theorem ofText_append_of_isPadding {w : Text} (h : ∀ c ∈ w, Line.isPadding c = true) (t : Text) :
    Similar (ofText (t ++ w)) (ofText t) := by
  induction w using List.reverseRecOn with
  | nil =>
    rw [List.append_nil]
    exact .refl _
  | append_singleton w c ih =>
    have hc : Line.isPadding c = true := h c (by simp)
    rw [← List.append_assoc, ofText_concat, next_of_isPadding hc]
    have hadd := similar_add (c := c) (by rw [isMargin, hc]; rfl) (ofText (t ++ w))
    exact hadd.trans (ih fun d hd => h d (List.mem_append_left _ hd))

theorem lead_append_of_isMargin {w : Text} (h : ∀ c ∈ w, isMargin c = true) (t : Text) :
    (ofText (t ++ w)).settle.lead = (ofText t).settle.lead := by
  induction w using List.reverseRecOn with
  | nil => rw [List.append_nil]
  | append_singleton w c ih =>
    rw [← List.append_assoc, ofText_concat, lead_settle_next (h c (by simp))]
    exact ih fun d hd => h d (List.mem_append_left _ hd)

theorem isBlank_run_ofText {t : Text} (h : hintMark ∉ t) (hblank : isBlank t = true) :
    isBlank (ofText t).run = true := by
  have hrun {c : Char} (hc : c ∈ (ofText t).run) : c ∈ t := by
    rw [← text_ofText t]
    exact List.mem_append_right _ hc
  rw [isBlank_iff_of_not_mem fun hmem => h (hrun hmem)]
  intro c hc
  exact (isBlank_iff_of_not_mem h).1 hblank c (hrun hc)

end Pending

/-! ## Condensed texts -/

/-- A text can be read in the place of another: the same is open behind both, it is cut nowhere
if the other is not, and what comes next has the same effect on both. -/
structure Follows (t u : Text) : Prop where
  after : Balance.after u = Balance.after t
  uncut : Uncut t → Uncut u
  similar : (Pending.ofText t).Similar (Pending.ofText u)

/-- The same character behind both. -/
theorem Follows.concat {t u : Text} (h : Follows t u) {c : Char} (hmark : hintMark ∉ t ++ [c])
    (hmark' : hintMark ∉ u ++ [c])
    (hhash : c = '{' → t.getLast? = some '#' → u.getLast? = some '#') :
    Follows (t ++ [c]) (u ++ [c]) where
  after := by rw [Balance.after_concat, Balance.after_concat, h.after]
  uncut := by
    rw [uncut_concat, uncut_concat]
    rintro ⟨ht, hc⟩
    refine ⟨h.uncut ht, ?_⟩
    intro hfree
    obtain ⟨hsemicolon, hbrace⟩ := hc (h.after ▸ hfree)
    exact ⟨hsemicolon, fun hopen => hhash hopen (hbrace hopen)⟩
  similar := by
    rw [Pending.ofText_concat, Pending.ofText_concat, h.after]
    apply h.similar.next (Pending.sound_ofText t) (Pending.sound_ofText u)
    · rw [Pending.text_ofText]
      exact hmark
    · rw [Pending.text_ofText]
      exact hmark'

/-- A blank character behind the first text only, where it changes nothing for the second. -/
theorem Follows.skip {t u : Text} (h : Follows t u) {c : Char} (hc : isMargin c = true)
    (hsimilar : ((Pending.ofText t).next (Balance.after t) c).Similar (Pending.ofText u)) :
    Follows (t ++ [c]) u where
  after := by rw [h.after, Balance.after_concat, Balance.read_of_isMargin hc]
  uncut := fun hcut => h.uncut hcut.of_append
  similar := by
    rw [Pending.ofText_concat]
    exact hsimilar

/-- Without the gap, the same is open behind the condensed form. -/
theorem Follows.after_condense {t : Text} (h : Follows t ((condense t).text ++ gap t)) :
    Balance.after (condense t).text = Balance.after t := by
  rw [← h.after, Balance.after_append_of_isMargin fun c hc => isMargin_of_mem_gap hc]

/-- The condensed form of a text without hint marks, and the gap behind it, can be read in the
place of the text. -/
theorem follows_condense {t : Text} (h : hintMark ∉ t) :
    Follows t ((condense t).text ++ gap t) := by
  induction t using List.reverseRecOn with
  | nil => exact ⟨rfl, fun huncut => huncut, .refl _⟩
  | append_singleton t c ih =>
    obtain ⟨hmark, hc⟩ := not_mem_of_concat h
    have ih := ih hmark
    have hcondensed := not_mem_condense t
    have hmark' : hintMark ∉ (condense t).text ++ gap t ++ [c] := by
      simp [hcondensed, not_mem_gap, hc.symm]
    cases hmargin : isMargin c with
    | false =>
      rw [condense_concat_of_ink h hmargin, gap_concat_of_ink hmargin, List.append_nil]
      apply ih.concat h hmark'
      -- a hash is not blank, so it is the last character of the condensed form as well
      intro _ hhash
      obtain ⟨s, rfl⟩ := List.getLast?_eq_some_iff.1 hhash
      rw [condense_concat_of_ink hmark rfl, gap_concat_of_ink rfl, List.append_nil]
      exact List.getLast?_concat
    | true =>
      rw [condense_concat hmargin, gap_concat hmargin]
      split
      · -- the character adds nothing to the gap
        rename_i hstays
        apply ih.skip hmargin
        rcases isMargin_cases hmargin with hpadding | rfl
        · rw [Pending.next_of_isPadding hpadding]
          exact (Pending.similar_add hmargin _).trans ih.similar
        rcases hstays with hblank | hfeed
        · have hrun := Pending.isBlank_run_ofText hmark hblank
          exact (Pending.similar_next_feed hrun _).trans ih.similar
        · -- the gap is a line feed already, and this is a second one
          have hnext : Pending.ofText ((condense t).text ++ gap t) =
              (Pending.ofText (condense t).text).next (Balance.after t) '\n' := by
            rw [gap_eq_of_mem hfeed, Pending.ofText_concat, ih.after_condense]
          have hsimilar := ih.similar.next (Pending.sound_ofText t) (Pending.sound_ofText _)
            (c := '\n') (by rw [Pending.text_ofText]; exact h)
            (by rw [Pending.text_ofText]; exact hmark') (Balance.after t)
          rw [hnext] at hsimilar ⊢
          exact hsimilar.trans (Pending.similar_feed_feed _ _)
      · rename_i hgrows
        rw [not_or] at hgrows
        split
        · -- a line feed takes the place of the gap, which is padding
          rename_i hfeed
          subst hfeed
          have hpadding : ∀ d ∈ gap t, Line.isPadding d = true := by
            intro d hd
            rcases isMargin_cases (isMargin_of_mem_gap hd) with hpadding | rfl
            · exact hpadding
            · exact absurd hd hgrows.2
          have hwithout : Follows t (condense t).text :=
            ⟨ih.after_condense, fun huncut => (ih.uncut huncut).of_append,
              ih.similar.trans (Pending.ofText_append_of_isPadding hpadding _)⟩
          apply hwithout.concat h
          · simp only [List.mem_append, List.mem_singleton, not_or]
            exact ⟨hcondensed, by decide⟩
          · intro hbrace
            cases hbrace
        · rw [← List.append_assoc]
          apply ih.concat h hmark'
          rintro rfl
          cases hmargin

/-- What is cut nowhere stays so when it is condensed, and nothing more is open behind it. -/
theorem uncut_condense {t : Text} (h : hintMark ∉ t) (huncut : Uncut t) :
    Uncut (condense t).text ∧ Balance.after (condense t).text = Balance.after t := by
  have hfollows := follows_condense h
  exact ⟨(hfollows.uncut huncut).of_append, hfollows.after_condense⟩

/-- A declaration is cut off the front of a text exactly if one is cut off the front of its
condensed form, whatever blank characters stand behind that. -/
theorem lead_condense {t w : Text} (h : hintMark ∉ t) (hw : ∀ c ∈ w, isMargin c = true) :
    (Pending.ofText ((condense t).text ++ w)).settle.lead = [] ↔
      (Pending.ofText t).settle.lead = [] := by
  have hsimilar := (follows_condense h).similar.settle (Pending.sound_ofText t)
    (Pending.sound_ofText _)
  rw [hsimilar.lead, Pending.lead_append_of_isMargin hw,
    Pending.lead_append_of_isMargin fun c hc => isMargin_of_mem_gap hc]

end SheetLex
