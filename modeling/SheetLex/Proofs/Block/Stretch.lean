import SheetLex.Proofs.Block.Uncut
import SheetLex.Proofs.Layout.Margin

/-!
# Where a selector starts

The text that is pending when a rule opens is a selector, or a declaration without its semicolon
and a selector behind it. Where the selector starts can be read off the text at once: commas and
opening parentheses divide it into stretches, and line feeds divide the stretches into lines
(`stretches`). In every stretch, whatever precedes the last line that is not blank is not part of
the selector, if it is not blank itself (`selectorStart`).

The pending text of a cutter is divided character by character, and keeps of the lines only where
the last one begins that may still be the first line of the selector. `Pending.Holds` says what its
parts have to do with the lines read so far, and from this it follows that the lead that is cut off
reaches to the start of the selector (`length_lead_ofText`).
-/

set_option autoImplicit false

namespace SheetLex

/-! ## Lines that are not blank -/

/-- The lines up to the last one that is not blank. -/
def uptoInk (lines : List Text) : List Text := lines.rdropWhile isBlank

/-- The lines up to the second-to-last one that is not blank; no lines if there is no such line. -/
def uptoSecondInk (lines : List Text) : List Text := uptoInk (uptoInk lines).dropLast

/-- Lines, each with the line feed that ends it. -/
def closedLines (lines : List Text) : Text := lines.flatMap fun line => line ++ ['\n']

section Lines

variable {lines : List Text} {line : Text}

theorem uptoInk_concat_of_blank (h : isBlank line = true) (lines : List Text) :
    uptoInk (lines ++ [line]) = uptoInk lines := List.rdropWhile_concat_pos _ _ _ h

theorem uptoInk_concat_of_ink (h : isBlank line = false) (lines : List Text) :
    uptoInk (lines ++ [line]) = lines ++ [line] :=
  List.rdropWhile_concat_neg _ _ _ (Bool.eq_false_iff.1 h)

theorem uptoSecondInk_concat_of_blank (h : isBlank line = true) (lines : List Text) :
    uptoSecondInk (lines ++ [line]) = uptoSecondInk lines := by
  rw [uptoSecondInk, uptoInk_concat_of_blank h, uptoSecondInk]

theorem uptoSecondInk_concat_of_ink (h : isBlank line = false) (lines : List Text) :
    uptoSecondInk (lines ++ [line]) = uptoInk lines := by
  rw [uptoSecondInk, uptoInk_concat_of_ink h, List.dropLast_concat]

theorem uptoInk_eq_nil_iff : uptoInk lines = [] ↔ ∀ line ∈ lines, isBlank line = true :=
  List.rdropWhile_eq_nil_iff

theorem uptoInk_append_of_blank {more : List Text} (h : ∀ line ∈ more, isBlank line = true)
    (lines : List Text) : uptoInk (lines ++ more) = uptoInk lines := by
  induction more using List.reverseRecOn with
  | nil => rw [List.append_nil]
  | append_singleton more line ih =>
    have hline : isBlank line = true := h line (by simp)
    rw [← List.append_assoc, uptoInk_concat_of_blank hline]
    exact ih fun other hother => h other (List.mem_append_left _ hother)

/-- The last line that is not blank has blank lines behind it. -/
theorem uptoInk_eq_concat_iff {front : List Text} :
    uptoInk lines = front ++ [line] ↔ ∃ behind, lines = front ++ [line] ++ behind ∧
      isBlank line = false ∧ ∀ other ∈ behind, isBlank other = true := by
  constructor
  · intro h
    refine ⟨lines.rtakeWhile isBlank, ?_, ?_, fun other hother => List.mem_rtakeWhile_imp hother⟩
    · rw [← h, uptoInk, List.rdropWhile_append_rtakeWhile]
    · have hne : lines.rdropWhile isBlank ≠ [] := by
        rw [show lines.rdropWhile isBlank = front ++ [line] from h]
        exact List.concat_ne_nil _ _
      have hlast := List.rdropWhile_last_not isBlank lines hne
      simp only [show lines.rdropWhile isBlank = front ++ [line] from h,
        List.getLast_append_singleton] at hlast
      exact Bool.eq_false_iff.2 hlast
  · rintro ⟨behind, rfl, hline, hbehind⟩
    rw [uptoInk_append_of_blank hbehind, uptoInk_concat_of_ink hline]

/-- The second-to-last line that is not blank has another such line behind it, and no more. -/
theorem uptoSecondInk_eq_concat_iff {front : List Text} :
    uptoSecondInk lines = front ++ [line] ↔ ∃ between last behind,
      lines = front ++ [line] ++ between ++ [last] ++ behind ∧
      isBlank line = false ∧ isBlank last = false ∧
      (∀ other ∈ between, isBlank other = true) ∧ ∀ other ∈ behind, isBlank other = true := by
  constructor
  · intro h
    obtain ⟨between, hlines, hline, hbetween⟩ := uptoInk_eq_concat_iff.1 h
    rcases List.eq_nil_or_concat (uptoInk lines) with hnil | ⟨before, last, hconcat⟩
    · rw [hnil] at hlines
      simp at hlines
    · rw [List.concat_eq_append] at hconcat
      obtain ⟨behind, hall, hlast, hbehind⟩ := uptoInk_eq_concat_iff.1 hconcat
      rw [hconcat, List.dropLast_concat] at hlines
      rw [hlines] at hall
      exact ⟨between, last, behind, hall, hline, hlast, hbetween, hbehind⟩
  · rintro ⟨between, last, behind, rfl, hline, hlast, hbetween, hbehind⟩
    rw [uptoSecondInk, uptoInk_append_of_blank hbehind, uptoInk_concat_of_ink hlast,
      List.dropLast_concat, uptoInk_append_of_blank hbetween, uptoInk_concat_of_ink hline]

/-- There is a second-to-last line that is not blank if there are two that are not. -/
theorem uptoSecondInk_eq_nil_iff :
    uptoSecondInk lines = [] ↔ (lines.filter fun line => !isBlank line).length < 2 := by
  induction lines using List.reverseRecOn with
  | nil => simp [uptoSecondInk, uptoInk]
  | append_singleton lines line ih =>
    rw [List.filter_append, List.length_append]
    cases hline : isBlank line with
    | true =>
      rw [uptoSecondInk_concat_of_blank hline, ih]
      simp [hline]
    | false =>
      -- the line is the last one that is not blank, so there has to be none before it
      have hnone : (lines.filter fun line => !isBlank line) = [] ↔
          (lines.filter fun line => !isBlank line).length + 1 < 2 := by
        rw [← List.length_eq_zero_iff]
        omega
      rw [uptoSecondInk_concat_of_ink hline, uptoInk_eq_nil_iff]
      simp [hline, ← hnone]

theorem length_closedLines_append (lines more : List Text) :
    (closedLines (lines ++ more)).length =
      (closedLines lines).length + (closedLines more).length := by
  rw [closedLines, List.flatMap_append, List.length_append]
  rfl

/-- Blank lines before a line do not show. -/
theorem isBlank_closedLines_append (h : ∀ line ∈ lines, isBlank line = true) (line : Text) :
    isBlank (closedLines lines ++ line) = isBlank line := by
  induction lines with
  | nil => rfl
  | cons first lines ih =>
    have hsplit : closedLines (first :: lines) ++ line =
        first ++ '\n' :: (closedLines lines ++ line) := by
      simp [closedLines]
    rw [hsplit, isBlank_append_feed, h first List.mem_cons_self, Bool.true_and]
    exact ih fun other hother => h other (List.mem_cons_of_mem first hother)

theorem intercalate_concat (lines : List Text) (line : Text) :
    ['\n'].intercalate (lines ++ [line]) = closedLines lines ++ line := by
  induction lines with
  | nil => simp [closedLines, List.intercalate]
  | cons first lines ih =>
    have hcons : ['\n'].intercalate (first :: (lines ++ [line])) =
        first ++ '\n' :: ['\n'].intercalate (lines ++ [line]) := by
      cases lines <;> simp [List.intercalate]
    rw [List.cons_append, hcons, ih]
    simp [closedLines]

end Lines

/-! ## Stretches -/

/-- A part of a text between two delimiters. -/
structure Stretch where
  /-- The lines, without the line feeds between them. -/
  lines : List Text := [[]]
  /-- The delimiter that ends the stretch; the last stretch of a text has none. -/
  delimiter : Option Char := none
deriving DecidableEq, Repr

/-- Whether a character ends a stretch: it is an opening parenthesis outside strings, or a comma
outside all constructs. -/
def Balance.delimits (b : Balance) (c : Char) : Bool :=
  b.quote = none ∧ c = '(' ∨ b = .free ∧ c = ','

/-- The stretches of a text, read from the count given. Line feeds outside all constructs end their
lines. -/
def stretches (b : Balance) : Text → List Stretch
  | [] => [{}]
  | c :: t =>
    let later := stretches (b.read c) t
    if b.delimits c then { delimiter := some c } :: later
    else if b = .free ∧ c = '\n' then later.modifyHead fun s => { s with lines := [] :: s.lines }
    else later.modifyHead fun s => { s with lines := s.lines.modifyHead fun line => c :: line }

namespace Stretch

/-- The characters of the stretch. -/
def text (s : Stretch) : Text := ['\n'].intercalate s.lines ++ s.delimiter.toList

/-- The lines that count. The last line does not if a parenthesis opens behind it. -/
def counted (s : Stretch) : List Text :=
  if s.delimiter = some '(' then s.lines.dropLast else s.lines

end Stretch

/-- Where a selector starts behind the lines given, which begin at `start`: behind the second-to-last
one that is not blank, or at `init` if there is no such line. -/
def startBehind (start init : Nat) (lines : List Text) : Nat :=
  if uptoSecondInk lines = [] then init else start + (closedLines (uptoSecondInk lines)).length

/-- The offset behind a stretch, and the offset where a selector starts behind it, from those before
it. -/
def Stretch.pass (place : Nat × Nat) (s : Stretch) : Nat × Nat :=
  (place.1 + s.text.length, startBehind place.1 place.2 s.counted)

/-- The offset in a pending text where the selector starts, if a rule opens behind the text. -/
def selectorStart (t : Text) : Nat := ((stretches .free t).foldl Stretch.pass (0, 0)).2

/-- Three lines of which the second one is blank, and a comma behind the last. -/
example : stretches .free ['a', '\n', '\n', 'b', ',', 'c'] =
    [⟨[['a'], [], ['b']], some ','⟩, ⟨[['c']], none⟩] ∧
    selectorStart ['a', '\n', '\n', 'b', ',', 'c'] = 2 := by decide

/-- Stretches that go on from lines that have been read: the first of them begins with these lines
and with the beginning of another one. -/
def resume (lines : List Text) (line : Text) (later : List Stretch) : List Stretch :=
  later.modifyHead fun s => { s with lines := lines ++ s.lines.modifyHead fun rest => line ++ rest }

theorem modifyHead_nil_append (lines : List Text) :
    (lines.modifyHead fun rest => [] ++ rest) = lines := by
  cases lines <;> rfl

theorem resume_nil (later : List Stretch) : resume [] [] later = later := by
  cases later with
  | nil => rfl
  | cons s later =>
    rw [resume, List.modifyHead_cons, modifyHead_nil_append]
    rfl

section Resume

variable {b : Balance} {c : Char} (lines : List Text) (line t : Text)

theorem resume_delimiter (h : b.delimits c = true) :
    resume lines line (stretches b (c :: t)) =
      ⟨lines ++ [line], some c⟩ :: stretches (b.read c) t := by
  rw [stretches]
  simp only [if_pos h]
  simp [resume]

theorem resume_feed :
    resume lines line (stretches .free ('\n' :: t)) =
      resume (lines ++ [line]) [] (stretches .free t) := by
  have hread : Balance.free.read '\n' = .free := rfl
  rw [stretches, hread]
  simp only [if_neg (show ¬ Balance.delimits .free '\n' = true by decide), and_self, if_true]
  rw [resume, resume, List.modifyHead_modifyHead]
  apply congrArg (fun f => List.modifyHead f _)
  funext s
  simp only [Function.comp_apply, List.modifyHead_cons]
  rw [modifyHead_nil_append, List.append_nil, List.append_assoc]
  rfl

theorem resume_other (h : b.delimits c = false) (hfeed : ¬ (b = .free ∧ c = '\n')) :
    resume lines line (stretches b (c :: t)) =
      resume lines (line ++ [c]) (stretches (b.read c) t) := by
  rw [stretches]
  simp only [h, Bool.false_eq_true, if_false, if_neg hfeed]
  rw [resume, resume, List.modifyHead_modifyHead]
  apply congrArg (fun f => List.modifyHead f _)
  funext s
  simp only [Function.comp_apply, List.modifyHead_modifyHead]
  apply congrArg (fun ls => ({ s with lines := lines ++ ls } : Stretch))
  apply congrArg (fun f => List.modifyHead f _)
  funext rest
  simp

/-- The stretches make up the text. -/
theorem flatMap_text_resume (b : Balance) :
    (resume lines line (stretches b t)).flatMap Stretch.text = closedLines lines ++ line ++ t := by
  induction t generalizing b lines line with
  | nil => simp [stretches, resume, Stretch.text, intercalate_concat]
  | cons c t ih =>
    cases hc : b.delimits c with
    | true =>
      have hlater := ih [] [] (b.read c)
      rw [resume_nil] at hlater
      rw [resume_delimiter lines line t hc, List.flatMap_cons, hlater, Stretch.text,
        intercalate_concat]
      simp [closedLines]
    | false =>
      by_cases hfeed : b = .free ∧ c = '\n'
      · obtain ⟨rfl, rfl⟩ := hfeed
        rw [resume_feed, ih]
        simp [closedLines]
      · rw [resume_other lines line t hc hfeed, ih]
        simp

end Resume

theorem flatMap_text_stretches (b : Balance) (t : Text) :
    (stretches b t).flatMap Stretch.text = t := by
  rw [← resume_nil (stretches b t), flatMap_text_resume]
  rfl

/-! ## Pending text, stretch by stretch -/

namespace Pending

variable {p : Pending} {start init : Nat} {lines : List Text} {line : Text} {b : Balance} {c : Char}

/-- An opening parenthesis outside strings begins a new run. -/
theorem next_leftParen (p : Pending) (hquote : b.quote = none) : p.next b '(' = p.hold '(' false := by
  have habsorb : p.absorb b '(' = p.hold '(' false := if_pos ⟨hquote, rfl⟩
  rw [next]
  split
  · exact habsorb
  · exact habsorb

/-- A character that neither ends a stretch nor ends a line joins the run. -/
theorem next_of_not_delimits (p : Pending) (hc : b.delimits c = false)
    (hfeed : ¬ (b = .free ∧ c = '\n')) : p.next b c = p.add c := by
  have hnot := of_decide_eq_false hc
  have habsorb : p.absorb b c = p.add c := by
    apply if_neg
    rintro ⟨hquote, hmark⟩
    exact hnot (.inl ⟨hquote, Mark.eq_of_of_eq hmark rfl⟩)
  rw [next]
  split
  · rename_i hfree
    split
    · rename_i hmark
      exact absurd (.inr ⟨hfree, Mark.eq_of_of_eq hmark rfl⟩) hnot
    · rename_i hmark
      exact absurd ⟨hfree, Mark.eq_of_of_eq hmark rfl⟩ hfeed
    · exact habsorb
  · exact habsorb

/-- What the parts of a pending text have to do with the stretch that is being read. The stretch
begins at `start`, its finished lines are `lines`, and `line` is the beginning of the next one;
`init` is where a selector starts in front of it. -/
structure Holds (p : Pending) (start init : Nat) (lines : List Text) (line : Text) : Prop where
  /-- The run reaches back to the last finished line that is not blank. -/
  run_eq : p.run = closedLines (lines.rtakeWhile isBlank) ++ line
  loose_iff : p.loose = true ↔ uptoInk lines ≠ []
  held : p.lead.length + p.held.length = start + (closedLines (uptoInk lines)).length
  lead : p.lead.length = startBehind start init lines

theorem holds_empty : ({} : Pending).Holds 0 0 [] [] where
  run_eq := rfl
  loose_iff := ⟨fun h => absurd h Bool.false_ne_true, fun h => absurd rfl h⟩
  held := rfl
  lead := rfl

namespace Holds

/-- The finished lines in the run are blank. -/
theorem isBlank_run (h : p.Holds start init lines line) : isBlank p.run = isBlank line := by
  rw [h.run_eq]
  exact isBlank_closedLines_append (fun other hother => List.mem_rtakeWhile_imp hother) line

theorem length_text (h : p.Holds start init lines line) :
    p.text.length = start + (closedLines lines ++ line).length := by
  have hlines : (closedLines lines).length = (closedLines (uptoInk lines)).length +
      (closedLines (lines.rtakeWhile isBlank)).length := by
    rw [← length_closedLines_append, uptoInk, List.rdropWhile_append_rtakeWhile]
  have hheld := h.held
  rw [text, h.run_eq]
  simp only [List.length_append]
  omega

/-- If the text settles, the selector starts where it starts behind all lines, the last one
included. -/
theorem length_lead_settle (h : p.Holds start init lines line) :
    p.settle.lead.length = startBehind start init (lines ++ [line]) := by
  rw [Pending.settle, h.isBlank_run]
  cases hline : isBlank line with
  | true =>
    rw [Bool.not_true, Bool.and_false, if_neg Bool.false_ne_true, h.lead, startBehind, startBehind,
      uptoSecondInk_concat_of_blank hline]
  | false =>
    rw [Bool.not_false, Bool.and_true, startBehind, uptoSecondInk_concat_of_ink hline]
    by_cases hink : uptoInk lines = []
    · -- the line is the first one that is not blank
      have hloose : ¬ p.loose = true := fun hloose => h.loose_iff.1 hloose hink
      rw [if_neg hloose, if_pos hink, h.lead, startBehind, uptoSecondInk, hink]
      rfl
    · rw [if_pos (h.loose_iff.2 hink), if_neg hink, List.length_append]
      exact h.held

/-- What is held behind a delimiter belongs to the stretches before. -/
theorem hold (q : Pending) (c : Char) :
    (q.hold c false).Holds (q.text.length + 1) q.lead.length [] [] where
  run_eq := rfl
  loose_iff := ⟨fun h => absurd h Bool.false_ne_true, fun h => absurd rfl h⟩
  held := by
    simp [Pending.hold, text, closedLines, uptoInk]
    omega
  lead := rfl

/-- A delimiter ends the stretch. -/
theorem next_delimiter (h : p.Holds start init lines line) (hc : b.delimits c = true) :
    (p.next b c).Holds (Stretch.pass (start, init) ⟨lines ++ [line], some c⟩).1
      (Stretch.pass (start, init) ⟨lines ++ [line], some c⟩).2 [] [] := by
  have hstart : (Stretch.pass (start, init) ⟨lines ++ [line], some c⟩).1 = p.text.length + 1 := by
    rw [h.length_text, Stretch.pass, Stretch.text, intercalate_concat, List.length_append,
      ← Nat.add_assoc]
    rfl
  rw [hstart]
  rcases of_decide_eq_true hc with ⟨hquote, rfl⟩ | ⟨rfl, rfl⟩
  · -- the line in front of a parenthesis does not count
    have hinit : (Stretch.pass (start, init) ⟨lines ++ [line], some '('⟩).2 = p.lead.length := by
      rw [h.lead, Stretch.pass, Stretch.counted, if_pos rfl, List.dropLast_concat]
    rw [p.next_leftParen hquote, hinit]
    exact hold p '('
  · have hnext : p.next .free ',' = p.settle.hold ',' false := rfl
    have hinit : (Stretch.pass (start, init) ⟨lines ++ [line], some ','⟩).2 =
        p.settle.lead.length := by
      have hne : (some ',' : Option Char) ≠ some '(' := by decide
      rw [h.length_lead_settle, Stretch.pass, Stretch.counted, if_neg hne]
    rw [hnext, hinit, ← p.text_settle]
    exact hold p.settle ','

/-- A line feed ends the line. -/
theorem next_feed (h : p.Holds start init lines line) :
    (p.next .free '\n').Holds start init (lines ++ [line]) [] := by
  change (p.breakLine '\n').Holds start init (lines ++ [line]) []
  rw [breakLine, h.isBlank_run]
  cases hline : isBlank line with
  | true =>
    -- a blank line goes to the run
    rw [if_pos rfl]
    constructor
    · rw [List.rtakeWhile_concat_pos _ _ _ hline, add, h.run_eq]
      simp [closedLines]
    · rw [uptoInk_concat_of_blank hline]
      exact h.loose_iff
    · rw [uptoInk_concat_of_blank hline]
      exact h.held
    · rw [startBehind, uptoSecondInk_concat_of_blank hline]
      exact h.lead
  | false =>
    rw [if_neg Bool.false_ne_true]
    constructor
    · rw [List.rtakeWhile_concat_neg _ _ _ (Bool.eq_false_iff.1 hline)]
      rfl
    · rw [uptoInk_concat_of_ink hline]
      simp [Pending.hold]
    · -- all that has been read so far is held
      have htext := h.length_text
      rw [← p.text_settle, text] at htext
      rw [uptoInk_concat_of_ink hline, length_closedLines_append]
      simp only [Pending.hold, closedLines, List.length_append, List.flatMap_singleton,
        List.length_singleton] at htext ⊢
      omega
    · exact h.length_lead_settle

/-- Any other character joins the line. -/
theorem next_other (h : p.Holds start init lines line) (hc : b.delimits c = false)
    (hfeed : ¬ (b = .free ∧ c = '\n')) : (p.next b c).Holds start init lines (line ++ [c]) := by
  rw [p.next_of_not_delimits hc hfeed]
  refine ⟨?_, h.loose_iff, h.held, h.lead⟩
  rw [add, h.run_eq, List.append_assoc]

/-- Over the rest of a text, the lead grows up to the start of the selector. -/
theorem length_lead_nextAll (h : p.Holds start init lines line) (b : Balance) (t : Text) :
    (p.nextAll b t).settle.lead.length =
      ((resume lines line (stretches b t)).foldl Stretch.pass (start, init)).2 := by
  induction t generalizing p b start init lines line with
  | nil =>
    rw [nextAll, h.length_lead_settle]
    simp [stretches, resume, Stretch.pass, Stretch.counted]
  | cons c t ih =>
    rw [nextAll]
    cases hc : b.delimits c with
    | true =>
      rw [ih (h.next_delimiter hc), resume_nil, resume_delimiter lines line t hc, List.foldl_cons]
    | false =>
      by_cases hfeed : b = .free ∧ c = '\n'
      · obtain ⟨rfl, rfl⟩ := hfeed
        rw [ih h.next_feed, resume_feed]
        rfl
      · rw [ih (h.next_other hc hfeed), resume_other lines line t hc hfeed]

end Holds

/-- The lead of a pending text reaches to the start of the selector. -/
theorem length_lead_ofText (t : Text) : (ofText t).settle.lead.length = selectorStart t := by
  rw [ofText, holds_empty.length_lead_nextAll, resume_nil]
  rfl

end Pending

end SheetLex
