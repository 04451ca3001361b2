import SheetLex.Proofs.Layout.Margin

/-!
# Condensing character by character

Reading a text without hint marks from left to right, its condensed form only ever grows. Blank
characters leave it as it is, and any other character is put behind it, with what stood between
the two if that is padding, or with one line feed if lines end there (`gap`,
`condense_concat_of_ink`).

The condensed form of any text holds no hint mark, and condensing it changes nothing
(`not_mem_condense`, `condense_condense`): its lines are the contents of lines, which are trimmed
already (`condense_intercalate`).
-/

set_option autoImplicit false

namespace SheetLex

/-! ## Texts without hint marks -/

theorem not_mem_of_concat {t : Text} {c : Char} (h : hintMark ∉ t ++ [c]) :
    hintMark ∉ t ∧ c ≠ hintMark := by
  simp only [List.mem_append, List.mem_singleton, not_or] at h
  exact ⟨h.1, Ne.symm h.2⟩

/-- Without hint marks, a text is blank if all its characters are. -/
theorem isBlank_iff_of_not_mem {t : Text} (h : hintMark ∉ t) :
    isBlank t = true ↔ ∀ c ∈ t, isMargin c = true := by
  rw [isBlank_iff, withoutHintDigits_of_not_mem h]
  apply forall₂_congr
  intro c hc
  have hne : c ≠ hintMark := by
    rintro rfl
    exact h hc
  simp [isBlankChar, isMargin, hne]

theorem isBlank_concat {t : Text} {c : Char} (h : hintMark ∉ t ++ [c]) :
    isBlank (t ++ [c]) = (isBlank t && isMargin c) := by
  rw [Bool.eq_iff_iff, Bool.and_eq_true, isBlank_iff_of_not_mem h,
    isBlank_iff_of_not_mem (not_mem_of_concat h).1]
  simp only [List.mem_append, List.mem_singleton, or_imp, forall_and, forall_eq]

namespace Line

/-- Without hint marks no line has a hint. -/
theorem marked_of_mem_split {t : Text} (h : hintMark ∉ t) {line : Line}
    (hline : line ∈ split false t) : line.marked = false := by
  induction t generalizing line with
  | nil =>
    obtain rfl := List.mem_singleton.1 hline
    rfl
  | cons c t ih =>
    simp only [List.mem_cons, not_or] at h
    rw [split, if_neg (Ne.symm h.1)] at hline
    split at hline
    · rcases List.mem_cons.1 hline with rfl | hline
      · rfl
      · exact ih h.2 hline
    · obtain ⟨first, rest, hsplit⟩ := exists_split t
      rw [hsplit, consFirst] at hline
      rcases List.mem_cons.1 hline with rfl | hline
      · rfl
      · exact ih h.2 (by rw [hsplit]; exact List.mem_cons_of_mem _ hline)

theorem hint?_of_marked {line : Line} (h : line.marked = false) : line.hint? = none := by
  rw [hint?, hintDigits, h]
  rfl

end Line

theorem line_condense {t : Text} (h : hintMark ∉ t) : (condense t).line = none := by
  rw [condense, List.findSome?_eq_none_iff]
  intro line hline
  exact Line.hint?_of_marked (Line.marked_of_mem_split h hline)

/-! ## Line feeds -/

/-- Two condensed texts with a line feed between them, if both hold something. -/
def joinLines (s t : Text) : Text :=
  if s = [] then t else if t = [] then s else s ++ '\n' :: t

theorem joinLines_append {t : Text} (h : t ≠ []) (s u : Text) :
    joinLines s (t ++ u) = joinLines s t ++ u := by
  by_cases hs : s = []
  · simp [joinLines, hs]
  · simp [joinLines, hs, h]

theorem intercalate_ne_nil {ts : List Text} (h : ∀ t ∈ ts, t ≠ []) (hne : ts ≠ []) :
    ['\n'].intercalate ts ≠ [] := by
  match ts with
  | [] => exact absurd rfl hne
  | [t] => simpa using h t
  | t :: u :: ts => simp [List.intercalate_cons_cons]

theorem intercalate_append {ss ts : List Text} (hs : ∀ s ∈ ss, s ≠ []) (ht : ∀ t ∈ ts, t ≠ []) :
    ['\n'].intercalate (ss ++ ts) =
      joinLines (['\n'].intercalate ss) (['\n'].intercalate ts) := by
  induction ss with
  | nil => rfl
  | cons s ss ih =>
    have hne := hs s List.mem_cons_self
    have ih := ih fun u hu => hs u (List.mem_cons_of_mem s hu)
    cases ss with
    | cons u ss =>
      have hrest : ['\n'].intercalate (u :: ss) ≠ [] :=
        intercalate_ne_nil (fun v hv => hs v (List.mem_cons_of_mem s hv)) (List.cons_ne_nil u ss)
      rw [List.cons_append, List.cons_append, List.intercalate_cons_cons, ← List.cons_append, ih,
        List.intercalate_cons_cons]
      by_cases hnil : ['\n'].intercalate ts = []
      · simp [joinLines, hrest, hnil]
      · simp [joinLines, hrest, hnil]
    | nil =>
      cases ts with
      | nil => simp [joinLines]
      | cons t ts =>
        have hrest := intercalate_ne_nil ht (List.cons_ne_nil t ts)
        rw [List.singleton_append, List.intercalate_cons_cons, List.intercalate_singleton,
          joinLines, if_neg hne, if_neg hrest, List.append_assoc]
        rfl

theorem ne_nil_of_mem_contents {t content : Text} (h : content ∈ contents t) : content ≠ [] := by
  simpa using (List.mem_filter.1 h).2

/-- Around a line feed, a text is condensed in two parts. -/
theorem condense_append_feed (s t : Text) :
    (condense (s ++ '\n' :: t)).text = joinLines (condense s).text (condense t).text := by
  change ['\n'].intercalate (contents (s ++ '\n' :: t)) = _
  rw [contents_append_feed]
  exact intercalate_append (fun _ => ne_nil_of_mem_contents) (fun _ => ne_nil_of_mem_contents)

theorem line_condense_append_feed (s t : Text) :
    (condense (s ++ '\n' :: t)).line = (condense s).line.or (condense t).line := by
  change (lines (s ++ '\n' :: t)).findSome? Line.hint? = _
  rw [lines, Line.split_append_feed, List.findSome?_append]
  rfl

/-- Both parts can be replaced by texts with the same condensed forms. -/
theorem condense_append_feed_congr {s s' t t' : Text} (hs : condense s = condense s')
    (ht : condense t = condense t') : condense (s ++ '\n' :: t) = condense (s' ++ '\n' :: t') := by
  have htext : (condense (s ++ '\n' :: t)).text = (condense (s' ++ '\n' :: t')).text := by
    rw [condense_append_feed, condense_append_feed, hs, ht]
  have hline : (condense (s ++ '\n' :: t)).line = (condense (s' ++ '\n' :: t')).line := by
    rw [line_condense_append_feed, line_condense_append_feed, hs, ht]
  generalize condense (s ++ '\n' :: t) = u at htext hline ⊢
  obtain ⟨text, line⟩ := u
  simp only at htext hline
  rw [htext, hline]

/-- A single line without hint marks is condensed by trimming it. -/
theorem condense_line {t : Text} (hfeed : '\n' ∉ t) (hmark : hintMark ∉ t) :
    (condense t).text = Text.trimBy Line.isPadding t := by
  have hlines : lines t = [⟨false, t⟩] := by
    rw [lines]
    induction t with
    | nil => rfl
    | cons c t ih =>
      simp only [List.mem_cons, not_or] at hfeed hmark
      rw [Line.split, if_neg (Ne.symm hfeed.1), if_neg (Ne.symm hmark.1), ih hfeed.2 hmark.2]
      rfl
  have hcontent : Line.content ⟨false, t⟩ = Text.trimBy Line.isPadding t := rfl
  change ['\n'].intercalate (contents t) = _
  rw [contents, hlines, List.map_singleton, hcontent]
  cases Text.trimBy Line.isPadding t with
  | nil => rfl
  | cons c u => exact List.intercalate_singleton

/-! ## What stands between a text and what follows it -/

/-- The blank characters that a text ends with. -/
def trailing (t : Text) : Text := t.rtakeWhile isMargin

/-- What stands in the condensed form between a text and a character behind it that is not
blank. -/
def gap (t : Text) : Text :=
  if isBlank t then [] else if '\n' ∈ trailing t then ['\n'] else trailing t

theorem exists_trailing (t : Text) :
    ∃ s, t = s ++ trailing t ∧ (s = [] ∨ ∃ s' e, s = s' ++ [e] ∧ isMargin e = false) := by
  refine ⟨t.rdropWhile isMargin, List.rdropWhile_append_rtakeWhile.symm, ?_⟩
  by_cases hs : t.rdropWhile isMargin = []
  · exact .inl hs
  · have hlast := List.rdropWhile_last_not isMargin t hs
    exact .inr ⟨_, _, (List.dropLast_append_getLast hs).symm, Bool.eq_false_iff.2 hlast⟩

theorem isMargin_of_mem_trailing {t : Text} {c : Char} (h : c ∈ trailing t) : isMargin c = true :=
  List.mem_rtakeWhile_imp h

theorem isMargin_of_mem_gap {t : Text} {c : Char} (h : c ∈ gap t) : isMargin c = true := by
  rw [gap] at h
  split at h
  · cases h
  · split at h
    · obtain rfl := List.mem_singleton.1 h
      rfl
    · exact isMargin_of_mem_trailing h

theorem not_mem_gap (t : Text) : hintMark ∉ gap t := by
  intro hmem
  exact absurd (isMargin_of_mem_gap hmem) (by decide)

theorem gap_of_isBlank {t : Text} (h : isBlank t = true) : gap t = [] := if_pos h

theorem trailing_concat_of_ink {c : Char} (hc : isMargin c = false) (t : Text) :
    trailing (t ++ [c]) = [] :=
  List.rtakeWhile_concat_neg isMargin t c (by rw [hc]; decide)

theorem trailing_concat {c : Char} (hc : isMargin c = true) (t : Text) :
    trailing (t ++ [c]) = trailing t ++ [c] :=
  List.rtakeWhile_concat_pos isMargin t c hc

theorem isBlank_concat_of_isMargin {c : Char} (hc : isMargin c = true) (t : Text) :
    isBlank (t ++ [c]) = isBlank t := isBlank_congr (condense_concat hc t)

/-- Behind a character that is not blank there is no gap. -/
theorem gap_concat_of_ink {c : Char} (hc : isMargin c = false) (t : Text) :
    gap (t ++ [c]) = [] := by
  rw [gap, trailing_concat_of_ink hc, if_neg List.not_mem_nil, ite_self]

theorem mem_gap_iff {t : Text} (h : isBlank t = false) : '\n' ∈ gap t ↔ '\n' ∈ trailing t := by
  rw [gap, h, if_neg Bool.false_ne_true]
  split
  · rename_i hmem
    exact ⟨fun _ => hmem, fun _ => List.mem_singleton.2 rfl⟩
  · exact Iff.rfl

/-- A gap with a line feed is nothing but that. -/
theorem gap_eq_of_mem {t : Text} (h : '\n' ∈ gap t) : gap t = ['\n'] := by
  cases hblank : isBlank t with
  | true =>
    rw [gap_of_isBlank hblank] at h
    cases h
  | false =>
    have hmem := (mem_gap_iff hblank).1 h
    rw [gap, hblank, if_neg Bool.false_ne_true, if_pos hmem]

/-- A blank character adds to a gap within a line. A blank text has no gap, and behind a line feed
there is nothing to add. -/
theorem gap_concat {c : Char} (hc : isMargin c = true) (t : Text) :
    gap (t ++ [c]) =
      if isBlank t ∨ '\n' ∈ gap t then gap t else if c = '\n' then ['\n'] else gap t ++ [c] := by
  cases hblank : isBlank t with
  | true =>
    rw [gap_of_isBlank ((isBlank_concat_of_isMargin hc t).trans hblank), gap_of_isBlank hblank,
      if_pos (.inl rfl)]
  | false =>
    simp only [mem_gap_iff hblank]
    rw [gap, gap, trailing_concat hc, isBlank_concat_of_isMargin hc, hblank,
      if_neg Bool.false_ne_true, if_neg Bool.false_ne_true]
    by_cases hfeed : '\n' ∈ trailing t
    · simp [hfeed]
    · by_cases hc' : c = '\n'
      · simp [hfeed, hc']
      · simp [hfeed, hc', Ne.symm hc']

/-! ## One character more -/

/-- Trimming a text that ends with a character that stays takes away from its front only. -/
theorem trimBy_concat_of_ink {p : Char → Bool} {c : Char} (hc : p c = false) (t : Text) :
    Text.trimBy p (t ++ [c]) = (t ++ [c]).dropWhile p := by
  have hlast : ∃ u, (t ++ [c]).dropWhile p = u ++ [c] := by
    rw [List.dropWhile_append]
    split
    · exact ⟨[], List.dropWhile_cons_of_neg (by rw [hc]; decide)⟩
    · exact ⟨_, rfl⟩
  obtain ⟨u, hu⟩ := hlast
  change List.rdropWhile p ((t ++ [c]).dropWhile p) = _
  rw [hu]
  exact List.rdropWhile_concat_neg p u c (by rw [hc]; decide)

/-- Behind a character that stays, trimming keeps everything up to the next such character. -/
theorem trimBy_append_concat {p : Char → Bool} {e c : Char} (he : p e = false) (hc : p c = false)
    (t w : Text) :
    Text.trimBy p (t ++ [e] ++ w ++ [c]) = Text.trimBy p (t ++ [e]) ++ w ++ [c] := by
  rw [trimBy_concat_of_ink hc, trimBy_concat_of_ink he, List.append_assoc, List.dropWhile_append,
    if_neg, List.append_assoc]
  rw [List.isEmpty_iff, List.dropWhile_eq_nil_iff]
  intro hall
  rw [hall e (by simp)] at he
  cases he

theorem not_isPadding_of_ink {c : Char} (h : isMargin c = false) :
    Line.isPadding c = false ∧ c ≠ '\n' := by
  rw [isMargin, Bool.or_eq_false_iff] at h
  exact ⟨h.1, beq_eq_false_iff_ne.1 h.2⟩

/-- The last line of a text: either the whole text or what follows its last line feed. -/
theorem exists_lastLine (t : Text) :
    ∃ l, '\n' ∉ l ∧ (t = l ∨ ∃ s, t = s ++ '\n' :: l) := by
  induction t using List.reverseRecOn with
  | nil => exact ⟨[], List.not_mem_nil, .inl rfl⟩
  | append_singleton t c ih =>
    by_cases hc : c = '\n'
    · exact ⟨[], List.not_mem_nil, .inr ⟨t, by rw [hc]⟩⟩
    · obtain ⟨l, hl, hsplit⟩ := ih
      refine ⟨l ++ [c], ?_, ?_⟩
      · simp only [List.mem_append, List.mem_singleton, not_or]
        exact ⟨hl, Ne.symm hc⟩
      · rcases hsplit with rfl | ⟨s, rfl⟩
        · exact .inl rfl
        · exact .inr ⟨s, by simp⟩

theorem condense_text_eq_nil_iff (t : Text) : (condense t).text = [] ↔ isBlank t = true := by
  rw [← condense_isEmpty, Condensed.isEmpty, List.isEmpty_iff]

/-- Behind blank characters, a character that is not blank is all there is. -/
theorem condense_append_ink {w : Text} {c : Char} (hw : ∀ d ∈ w, isMargin d = true)
    (hc : isMargin c = false) (hmark : c ≠ hintMark) : (condense (w ++ [c])).text = [c] := by
  obtain ⟨hpadding, hfeed⟩ := not_isPadding_of_ink hc
  have htrim := trimBy_concat_of_ink hpadding []
  rw [List.nil_append, List.dropWhile_cons_of_neg (by rw [hpadding]; decide)] at htrim
  rw [condense_append_left hw, condense_line (by simpa using hfeed.symm) (by simpa using hmark.symm),
    htrim]

/-- Between two characters that are not blank, padding stays in the condensed form of a line. -/
theorem condense_line_append {t w : Text} {e c : Char} (h : hintMark ∉ t ++ [e] ++ w ++ [c])
    (hfeeds : '\n' ∉ t ++ [e] ++ w ++ [c]) (he : isMargin e = false) (hc : isMargin c = false) :
    (condense (t ++ [e] ++ w ++ [c])).text = (condense (t ++ [e])).text ++ w ++ [c] := by
  have hmem {d : Char} (hd : d ∈ t ++ [e]) : d ∈ t ++ [e] ++ w ++ [c] :=
    List.mem_append_left _ (List.mem_append_left _ hd)
  rw [condense_line hfeeds h, condense_line (fun hd => hfeeds (hmem hd)) fun hd => h (hmem hd)]
  exact trimBy_append_concat (not_isPadding_of_ink he).1 (not_isPadding_of_ink hc).1 t w

/-- So it does if other lines stand before. -/
theorem condense_append_concat {t w : Text} {e c : Char} (h : hintMark ∉ t ++ [e] ++ w ++ [c])
    (he : isMargin e = false) (hc : isMargin c = false) (hw : '\n' ∉ w) :
    (condense (t ++ [e] ++ w ++ [c])).text = (condense (t ++ [e])).text ++ w ++ [c] := by
  have hfeeds {l : Text} (hl : '\n' ∉ l) : '\n' ∉ l ++ [e] ++ w ++ [c] := by
    simp [hl, hw, (not_isPadding_of_ink he).2.symm, (not_isPadding_of_ink hc).2.symm]
  obtain ⟨l, hl, rfl | ⟨s, rfl⟩⟩ := exists_lastLine t
  · exact condense_line_append h (hfeeds hl) he hc
  · have hsplit : s ++ '\n' :: l ++ [e] ++ w ++ [c] =
        (s ++ ['\n']) ++ (l ++ [e] ++ w ++ [c]) := by simp
    have hmark : hintMark ∉ l ++ [e] ++ w ++ [c] := by
      intro hmem
      rw [hsplit] at h
      exact h (List.mem_append_right _ hmem)
    have hmark' : hintMark ∉ l ++ [e] := fun hmem =>
      hmark (List.mem_append_left _ (List.mem_append_left _ hmem))
    have hne : (condense (l ++ [e])).text ≠ [] := by
      rw [Ne, condense_text_eq_nil_iff, isBlank_concat hmark', he, Bool.and_false]
      exact Bool.false_ne_true
    -- the last line grows, and the lines before it stay in front
    have hleft := condense_append_feed s (l ++ [e] ++ w ++ [c])
    have hright := condense_append_feed s (l ++ [e])
    rw [condense_line_append hmark (hfeeds hl) he hc,
      List.append_assoc (condense (l ++ [e])).text, joinLines_append hne, ← hright] at hleft
    simpa using hleft

/-- A character that is not blank goes to the end of the condensed form, behind the gap. -/
theorem condense_concat_of_ink {t : Text} {c : Char} (h : hintMark ∉ t ++ [c])
    (hc : isMargin c = false) :
    (condense (t ++ [c])).text = (condense t).text ++ gap t ++ [c] := by
  obtain ⟨hmark, hc'⟩ := not_mem_of_concat h
  obtain ⟨s, ht, rfl | ⟨s, e, rfl, he⟩⟩ := exists_trailing t
  · -- the text is blank
    rw [List.nil_append] at ht
    have hall : ∀ d ∈ t, isMargin d = true := by
      intro d hd
      rw [ht] at hd
      exact isMargin_of_mem_trailing hd
    have hblank := isBlank_of_isMargin hall
    rw [condense_append_ink hall hc hc', gap_of_isBlank hblank,
      (condense_text_eq_nil_iff t).2 hblank]
    rfl
  · -- the text ends with a character that is not blank, and the blank characters behind it
    have hall : ∀ d ∈ trailing t, isMargin d = true := fun d => isMargin_of_mem_trailing
    have hcondense : condense t = condense (s ++ [e]) := by
      conv_lhs => rw [ht]
      exact condense_append_right hall _
    have hmark' : hintMark ∉ s ++ [e] := fun hmem => hmark (ht ▸ List.mem_append_left _ hmem)
    have hink : isBlank t = false := by
      rw [isBlank_congr hcondense, isBlank_concat hmark', he, Bool.and_false]
    rw [gap, hink, if_neg Bool.false_ne_true, hcondense]
    split
    · -- lines end in between, so the character begins one
      rename_i hfeed
      obtain ⟨w, w', hw⟩ := List.append_of_mem hfeed
      rw [hw] at ht hall
      have hfront : ∀ d ∈ w, isMargin d = true := fun d hd => hall d (by simp [hd])
      have hback : ∀ d ∈ w', isMargin d = true := fun d hd => hall d (by simp [hd])
      have hsplit : t ++ [c] = (s ++ [e] ++ w) ++ '\n' :: (w' ++ [c]) := by
        conv_lhs => rw [ht]
        simp
      have hne : (condense (s ++ [e])).text ≠ [] := by
        rw [← hcondense, Ne, condense_text_eq_nil_iff, hink]
        exact Bool.false_ne_true
      rw [hsplit, condense_append_feed, condense_append_right hfront,
        condense_append_ink hback hc hc', joinLines, if_neg hne, if_neg (List.cons_ne_nil c [])]
      simp
    · rename_i hfeed
      rw [ht] at h
      conv_lhs => rw [ht]
      exact condense_append_concat h he hc hfeed

/-! ## Condensing a condensed text -/

theorem Text.trimBy_trimBy (p : Char → Bool) (t : Text) :
    trimBy p (trimBy p t) = trimBy p t := by
  have hfront : (trimBy p t).dropWhile p = trimBy p t := by
    cases htrim : trimBy p t with
    | nil => rfl
    | cons c u =>
      -- the first character is the one at which dropping in front stopped
      obtain ⟨rest, hrest⟩ := List.rdropWhile_prefix p (t.dropWhile p)
      have hhead : (t.dropWhile p).head? = some c := by
        rw [← hrest, show List.rdropWhile p (t.dropWhile p) = c :: u from htrim]
        rfl
      have hc := List.head?_dropWhile_not p t
      rw [hhead] at hc
      exact List.dropWhile_cons_of_neg (by rw [hc]; decide)
  change List.rdropWhile p ((trimBy p t).dropWhile p) = _
  rw [hfront]
  exact List.rdropWhile_idempotent p _

/-- A text that a line can have as its content. -/
structure IsContent (u : Text) : Prop where
  ne_nil : u ≠ []
  feed : '\n' ∉ u
  mark : hintMark ∉ u
  trimmed : Text.trimBy Line.isPadding u = u

theorem isContent_of_mem_contents {t u : Text} (h : u ∈ contents t) : IsContent u := by
  have hne := ne_nil_of_mem_contents h
  obtain ⟨line, hline, rfl⟩ := List.mem_map.1 (List.mem_filter.1 h).1
  rw [Line.content_eq_trimBy] at hne ⊢
  obtain ⟨a, b, hpayload, -, -⟩ := Text.exists_trimBy Line.isPadding line.payload
  have hmem {c : Char} (hc : c ∈ Text.trimBy Line.isPadding line.payload) : c ∈ line.text := by
    apply List.mem_of_mem_drop (i := line.hintDigits.length)
    change c ∈ line.payload
    rw [hpayload]
    exact List.mem_append_left b (List.mem_append_right a hc)
  have hbreak := Line.not_break_of_mem_split hline
  exact ⟨hne, fun hc => (hbreak _ (hmem hc)).1 rfl, fun hc => (hbreak _ (hmem hc)).2 rfl,
    Text.trimBy_trimBy Line.isPadding _⟩

/-- Contents of lines, one to a line, are condensed already. -/
theorem condense_intercalate {us : List Text} (h : ∀ u ∈ us, IsContent u) :
    hintMark ∉ ['\n'].intercalate us ∧
      (condense (['\n'].intercalate us)).text = ['\n'].intercalate us := by
  induction us with
  | nil => exact ⟨List.not_mem_nil, rfl⟩
  | cons u us ih =>
    have hu := h u List.mem_cons_self
    have hrest : ∀ v ∈ us, IsContent v := fun v hv => h v (List.mem_cons_of_mem u hv)
    obtain ⟨hmark, hcondense⟩ := ih hrest
    have hfirst : (condense u).text = u := (condense_line hu.feed hu.mark).trans hu.trimmed
    cases us with
    | nil =>
      rw [List.intercalate_singleton]
      exact ⟨hu.mark, hfirst⟩
    | cons v us =>
      have hne := intercalate_ne_nil (fun w hw => (hrest w hw).ne_nil) (List.cons_ne_nil v us)
      have hjoin : ['\n'].intercalate (u :: v :: us) = u ++ '\n' :: ['\n'].intercalate (v :: us) := by
        rw [List.intercalate_cons_cons, List.append_assoc]
        rfl
      rw [hjoin]
      refine ⟨?_, ?_⟩
      · rw [List.mem_append, List.mem_cons, not_or, not_or]
        exact ⟨hu.mark, by decide, hmark⟩
      · rw [condense_append_feed, hfirst, hcondense, joinLines, if_neg hu.ne_nil, if_neg hne]

/-- Condensing a text leaves no hint mark. -/
theorem not_mem_condense (t : Text) : hintMark ∉ (condense t).text :=
  (condense_intercalate fun _ => isContent_of_mem_contents).1

/-- Condensing the condensed form of a text changes nothing. -/
theorem condense_condense (t : Text) : condense (condense t).text = ⟨(condense t).text, none⟩ := by
  have htext : (condense (condense t).text).text = (condense t).text :=
    (condense_intercalate fun _ => isContent_of_mem_contents).2
  change (⟨(condense (condense t).text).text, (condense (condense t).text).line⟩ : Condensed) = _
  rw [htext, line_condense (not_mem_condense t)]

end SheetLex
