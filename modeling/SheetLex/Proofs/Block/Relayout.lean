import SheetLex.Proofs.Block.Insertion

/-!
# Blank text around line feeds

Around a line feed outside bodies, spaces, tabs, carriage returns and further line feeds do not show
in the blocks of a pass: neither in their number and texts nor in their line numbers
(`splitBlocks_relayout`). So it does not matter how lines end there (`splitBlocks_returnLines`).

Behind the line feed, blank text goes to the run, and is dropped with the padding of the line that
it begins. Before the line feed, a single blank character goes to the run as well, and is dropped
with the padding of the line that it ends; a further line feed is one behind which blank text
stands.
-/

set_option autoImplicit false

namespace SheetLex

/-- Blank characters that stand around line feeds. -/
def isLayout (c : Char) : Bool := c = ' ' || c = '\t' || c = '\r' || c = '\n'

/-- A carriage return before a line feed outside bodies, if that is one of those chosen by the text
before them. -/
def returnBefore (chosen : Text → Bool) (before behind : Text) : Text :=
  if behind.head? = some '\n' ∧ ¬ InBody before ∧ chosen before = true then ['\r'] else []

/-- The source with a carriage return before each chosen line feed outside bodies. -/
def returnLines (chosen : Text → Bool) (source : Text) : Text := weave (returnBefore chosen) source

/-- All line feeds are chosen, but the one in the body stays as it is. -/
example : returnLines (fun _ => true) ['\n', 'a', '{', '\n', '}', '\n'] =
    ['\r', '\n', 'a', '{', '\n', '}', '\r', '\n'] := by decide

section Layout

variable {w : Text} {c : Char}

theorem isLayout_cases (h : isLayout c = true) : c = ' ' ∨ c = '\t' ∨ c = '\r' ∨ c = '\n' := by
  simpa [isLayout, or_assoc] using h

theorem isMargin_of_isLayout (h : isLayout c = true) : isMargin c = true := by
  rcases isLayout_cases h with rfl | rfl | rfl | rfl <;> rfl

theorem spares_of_isLayout (h : isLayout c = true) (b : Balance) : b.Spares c := by
  rcases isLayout_cases h with rfl | rfl | rfl | rfl
  all_goals exact ⟨fun _ => by decide, fun _ => by decide⟩

/-- Blank text goes to the run at the start of a line: the run is blank where nothing is open, so a
line feed does not count there. -/
theorem runsOn_of_isLayout (hw : ∀ c ∈ w, isLayout c = true) (b : Balance) : RunsOn b w := by
  have hmargin : ∀ c ∈ w, isMargin c = true := fun c hc => isMargin_of_isLayout (hw c hc)
  apply runsOn_of (P := fun p => b = .free → isBlank p.run = true)
  · exact fun p hp => hp.isBlank_run
  · exact fun c hc => Balance.read_of_isMargin (hmargin c hc) b
  · exact fun c hc => spares_of_isLayout (hw c hc) b
  · intro c hc p hblank
    refine ⟨?_, fun hfree => (isBlank_concat_of_isMargin (hmargin c hc) p.run).trans (hblank hfree)⟩
    rcases isMargin_cases (hmargin c hc) with hpadding | rfl
    · exact Pending.next_of_isPadding hpadding p b
    · rw [Pending.next_feed]
      split
      · rename_i hfree
        rw [Pending.breakLine, if_pos (hblank hfree)]
      · rfl

/-- At the start of a line, blank text does not show. -/
theorem condense_startsLine_append {s : Text} (hs : StartsLine s)
    (hw : ∀ c ∈ w, isMargin c = true) (t : Text) : condense (s ++ w ++ t) = condense (s ++ t) := by
  rcases hs with rfl | hfeed
  · exact condense_append_left hw t
  · obtain ⟨s, rfl⟩ := List.getLast?_eq_some_iff.1 hfeed
    have hsplit := condense_append_feed_congr (s := s) rfl (condense_append_left hw t)
    simpa using hsplit

end Layout

/-! ## Blocks -/

section Blocks

variable {x y w : Text} {options : SplitOptions}

/-- Sources have the same blocks if their pieces have the same bodies, and heads with the same
condensed forms. -/
theorem splitBlocks_congr {source source' : Text}
    (h : (pieces source).map (Piece.view condense id) =
      (pieces source').map (Piece.view condense id)) (options : SplitOptions) :
    splitBlocks source options = splitBlocks source' options := by
  rw [splitBlocks_eq_report, splitBlocks_eq_report,
    ← List.map_id (report options 0 (pieces source)),
    ← List.map_id (report options 0 (pieces source'))]
  refine map_report_congr (R := Eq) showsBlank_condense ?_ h rfl
  rintro p q hview line _ rfl
  obtain ⟨hhead, hrest⟩ := Prod.mk.inj hview
  obtain ⟨hbody, hcause⟩ := Prod.mk.inj hrest
  simp only [Option.map_id, id] at hbody
  have hhint : p.hint? = q.hint? := congrArg Condensed.line hhead
  refine ⟨?_, by rw [hhint]⟩
  simp only [id, Piece.block, hhint, hhead, hbody, hcause]

/-- Blank text behind a line feed outside bodies. -/
theorem splitBlocks_behind_feed (hbody : ¬ InBody x) (hw : ∀ c ∈ w, isLayout c = true) (y : Text)
    (options : SplitOptions) :
    splitBlocks (x ++ '\n' :: (w ++ y)) options = splitBlocks (x ++ '\n' :: y) options := by
  have hall : (Balance.after x).SparesAll ['\n'] := ⟨spares_of_isLayout rfl _, trivial⟩
  have hmargin : ∀ c ∈ w, isMargin c = true := fun c hc => isMargin_of_isLayout (hw c hc)
  have hview : (pieces (x ++ ['\n'] ++ w ++ y)).map (Piece.view condense id) =
      (pieces (x ++ ['\n'] ++ y)).map (Piece.view condense id) := by
    apply view_pieces_insert showsBlank_condense
    · exact fun h => hbody ((inBody_append_iff hall).1 h)
    · exact startsLine_concat x
    · exact runsOn_of_isLayout hw _
    · intro s hs t _
      exact condense_startsLine_append hs hmargin t
    · intro hhash
      exact absurd (hw '#' hhash) (by decide)
  have hblocks := splitBlocks_congr hview options
  simpa using hblocks

/-- A single blank character before a line feed outside bodies. -/
theorem splitBlocks_char_before_feed {c : Char} (hbody : ¬ InBody x) (hc : isLayout c = true)
    (y : Text) (options : SplitOptions) :
    splitBlocks (x ++ c :: '\n' :: y) options = splitBlocks (x ++ '\n' :: y) options := by
  rcases isMargin_cases (isMargin_of_isLayout hc) with hpadding | rfl
  · -- the line ends behind the character, and what it ends with is trimmed
    have hshow (s : Text) : Text.Agree condense ('\n' :: y) (s ++ [c]) s := by
      intro t ht
      cases t with
      | nil =>
        rw [List.append_nil, List.append_nil]
        exact condense_concat (isMargin_of_isLayout hc) s
      | cons d t =>
        obtain ⟨rfl, -⟩ := List.cons_prefix_cons.1 ht
        exact condense_append_feed_congr (condense_concat (isMargin_of_isLayout hc) s) rfl
    obtain ⟨p, hp⟩ := exists_pending_of_not_inBody hbody
    have hreplaces : (p.add c).Replaces condense ('\n' :: y) p := by
      refine ⟨rfl, rfl, fun _ => rfl, hshow p.run, ?_, ?_, ?_⟩
      · rw [Pending.selector_add]
        exact hshow p.selector
      · rw [Pending.text_add]
        exact hshow p.text
      · intro hbrace
        cases hbrace
    have hall : (Balance.after x).SparesAll [c] := ⟨spares_of_isLayout hc _, trivial⟩
    have hnone : (Balance.after x).SparesAll [] := trivial
    have hview : (pieces (x ++ [c] ++ '\n' :: y)).map (Piece.view condense id) =
        (pieces (x ++ [] ++ '\n' :: y)).map (Piece.view condense id) := by
      apply view_pieces_congr showsBlank_condense hall hnone
      · exact Balance.read_of_isMargin (isMargin_of_isLayout hc) _
      · have hnext : p.nextAll (Balance.after x) [c] = p.add c :=
          Pending.next_of_isPadding hpadding p _
        rw [hp, Place.grow, Place.grow, hnext]
        exact .outside hreplaces
    have hblocks := splitBlocks_congr hview options
    simpa using hblocks
  · exact splitBlocks_behind_feed (w := ['\n']) hbody (List.all_eq_true.1 rfl) y options

/-- Blank text before a line feed outside bodies. -/
theorem splitBlocks_before_feed (hbody : ¬ InBody x) (hw : ∀ c ∈ w, isLayout c = true) (y : Text)
    (options : SplitOptions) :
    splitBlocks (x ++ (w ++ '\n' :: y)) options = splitBlocks (x ++ '\n' :: y) options := by
  induction w using List.reverseRecOn with
  | nil => rfl
  | append_singleton w c ih =>
    -- the last character stands directly before the line feed
    have hfront : ∀ d ∈ w, isLayout d = true := fun d hd => hw d (List.mem_append_left _ hd)
    have hout : ¬ InBody (x ++ w) :=
      fun h => hbody ((inBody_append_iff (runsOn_of_isLayout hfront _).spares).1 h)
    have hlast := splitBlocks_char_before_feed hout (hw c (by simp)) y options
    rw [List.append_assoc, List.append_assoc] at hlast
    rw [List.append_assoc, List.singleton_append, hlast]
    exact ih hfront

theorem splitBlocks_returnLines (chosen : Text → Bool) (source : Text) (options : SplitOptions) :
    splitBlocks (returnLines chosen source) options = splitBlocks source options := by
  apply apply_weave (f := fun source => splitBlocks source options)
  intro x y z _ hhead
  rw [returnBefore]
  split
  · rename_i hreturn
    obtain ⟨hfeed, hbody, -⟩ := hreturn
    -- what stands behind the point begins with the line feed still
    rw [← hhead] at hfeed
    obtain ⟨z, rfl⟩ := List.head?_eq_some_iff.1 hfeed
    have hblocks := splitBlocks_before_feed (w := ['\r']) hbody (List.all_eq_true.1 rfl) z options
    rw [List.append_assoc]
    exact hblocks
  · rw [List.append_nil]

/-- Spaces, tabs, carriage returns and line feeds directly before or directly behind a line feed
that does not lie in the body of a rule leave all blocks as they are. In particular, any of the
lines outside bodies can end with a carriage return and a line feed in place of a line feed. -/
theorem splitBlocks_relayout (hbody : ¬ InBody x)
    (hw : ∀ c ∈ w, c = ' ' ∨ c = '\t' ∨ c = '\r' ∨ c = '\n') (y : Text) (options : SplitOptions) :
    let source := x ++ '\n' :: y
    splitBlocks (x ++ (w ++ '\n' :: y)) options = splitBlocks source options ∧
      splitBlocks (x ++ '\n' :: (w ++ y)) options = splitBlocks source options ∧
      ∀ chosen : Text → Bool,
        splitBlocks (returnLines chosen source) options = splitBlocks source options := by
  intro source
  have hlayout : ∀ c ∈ w, isLayout c = true := by
    intro c hc
    rcases hw c hc with rfl | rfl | rfl | rfl <;> rfl
  refine ⟨splitBlocks_before_feed hbody hlayout y options,
    splitBlocks_behind_feed hbody hlayout y options, ?_⟩
  intro chosen
  exact splitBlocks_returnLines chosen source options

/-- Blank lines in a string that stands before a rule, and behind the comma of its selector. -/
theorem splitBlocks_relayout_string :
    let x : Text := ['@', 'a', '"', 'b']
    let x' : Text := ['a', ',']
    let w : Text := [' ', '\r', '\n', '\t']
    ¬ InBody x ∧ ¬ InBody x' ∧ (∀ c ∈ w, c = ' ' ∨ c = '\t' ∨ c = '\r' ∨ c = '\n') ∧
      splitBlocks (x ++ (w ++ ['\n', '"', 'c', '{', '}'])) {} =
        splitBlocks (x ++ ['\n', '"', 'c', '{', '}']) {} ∧
      splitBlocks (x' ++ '\n' :: (w ++ ['b', '{', '}'])) {} =
        splitBlocks (x' ++ ['\n', 'b', '{', '}']) {} := by
  intro x x' w
  have hx : ¬ InBody x := by decide
  have hx' : ¬ InBody x' := by decide
  have hw : ∀ c ∈ w, c = ' ' ∨ c = '\t' ∨ c = '\r' ∨ c = '\n' := by simp [w]
  exact ⟨hx, hx', hw, (splitBlocks_relayout hx hw _ {}).1, (splitBlocks_relayout hx' hw _ {}).2.1⟩

end Blocks

end SheetLex
