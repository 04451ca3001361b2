import SheetLex.Proofs.Token.Step
import Mathlib.Data.List.Chain
import SheetLex.Regex.Engine

/-!
# Tokenizing loses nothing

At any point the input before the cursor is a sequence of segments: the tokens of the history, in
order, and between them matches of ignored patterns, none of them empty (`Lossless`). A scan puts
the matches that it skips and the token that it finds behind the segments; going back to a token
cuts them off where the token starts. The invariant therefore holds behind every run of commands
(`lossless_reached`).

A scan that finds the last token once more leaves everything as it was: such a token is empty, and
nothing was skipped before it (`cursor_of_repeatsLast`).
-/

set_option autoImplicit false

namespace SheetLex

/-! ## Segments -/

/-- What became of a stretch of the input: a token of the history, or text that was skipped. -/
inductive Segment where
  | token (entry : HistoryEntry)
  | skipped (skip : Skip)
deriving DecidableEq, Repr

namespace Segment

variable {engine : RegexEngine} {options : MatchOptions}

/-- Where the segment lies in the input. -/
def range : Segment → ByteRange
  | token entry => entry.token.range
  | skipped skip => skip.range

/-- The token of a segment. -/
def entry? : Segment → Option HistoryEntry
  | token entry => some entry
  | skipped _ => none

/-- Segments lie one behind the other, from the first offset to the last. -/
def Consecutive : Nat → List Segment → Nat → Prop
  | first, [], last => first = last
  | first, seg :: rest, last =>
    seg.range.start = first ∧ seg.range.start ≤ seg.range.stop ∧
      Consecutive seg.range.stop rest last

theorem consecutive_append {first last : Nat} {segs rest : List Segment} :
    Consecutive first (segs ++ rest) last ↔
      ∃ middle, Consecutive first segs middle ∧ Consecutive middle rest last := by
  induction segs generalizing first with
  | nil =>
    constructor
    · intro h
      exact ⟨first, rfl, h⟩
    · rintro ⟨middle, rfl, h⟩
      exact h
  | cons seg segs ih =>
    rw [List.cons_append, Consecutive, ih]
    constructor
    · rintro ⟨hstart, horder, middle, hsegs, hrest⟩
      exact ⟨middle, ⟨hstart, horder, hsegs⟩, hrest⟩
    · rintro ⟨middle, ⟨hstart, horder, hsegs⟩, hrest⟩
      exact ⟨hstart, horder, middle, hsegs, hrest⟩

/-- Consecutive segments end where they begin or behind. -/
theorem Consecutive.le {first last : Nat} {segs : List Segment}
    (h : Consecutive first segs last) : first ≤ last := by
  induction segs generalizing first with
  | nil => exact Nat.le_of_eq h
  | cons seg segs ih =>
    obtain ⟨hstart, horder, hrest⟩ := h
    have hle := ih hrest
    omega

/-- A segment is in order and ends at the last offset or before. -/
theorem Consecutive.order {first last : Nat} {segs : List Segment}
    (h : Consecutive first segs last) {seg : Segment} (hseg : seg ∈ segs) :
    seg.range.start ≤ seg.range.stop ∧ seg.range.stop ≤ last := by
  induction segs generalizing first with
  | nil => cases hseg
  | cons next segs ih =>
    obtain ⟨hstart, horder, hrest⟩ := h
    rcases List.mem_cons.1 hseg with rfl | hseg
    · exact ⟨horder, hrest.le⟩
    · exact ih hrest hseg

/-- If all segments end within a bound, so does the last one. -/
theorem Consecutive.le_of_forall {first last bound : Nat} {segs : List Segment}
    (h : Consecutive first segs last) (hfirst : first ≤ bound)
    (hsegs : ∀ seg ∈ segs, seg.range.stop ≤ bound) : last ≤ bound := by
  induction segs generalizing first with
  | nil => exact h ▸ hfirst
  | cons seg segs ih =>
    obtain ⟨hstart, horder, hrest⟩ := h
    apply ih hrest
    · exact hsegs seg List.mem_cons_self
    · intro next hnext
      exact hsegs next (List.mem_cons_of_mem seg hnext)

/-- The segment is what its pattern makes of the input. -/
def Faithful (patterns : List (Pattern engine options)) (ignored : List Nat) (input : Subject) :
    Segment → Prop
  | token entry =>
    ignored.contains entry.token.rank = false ∧
      (patterns[entry.token.rank]?).map Pattern.name = some entry.token.name ∧
      Tokenizer.MatchesAt patterns input entry.token.rank entry.token.range ∧
      (entry.restriction ≠ [] → entry.token.name ∈ entry.restriction)
  | skipped skip =>
    ignored.contains skip.rank = true ∧ Tokenizer.MatchesAt patterns input skip.rank skip.range ∧
      skip.range.start < skip.range.stop

theorem Faithful.matchesAt {patterns : List (Pattern engine options)} {ignored : List Nat}
    {input : Subject} {seg : Segment} (h : seg.Faithful patterns ignored input) :
    ∃ rank, Tokenizer.MatchesAt patterns input rank seg.range := by
  cases seg with
  | token entry => exact ⟨entry.token.rank, h.2.2.1⟩
  | skipped skip => exact ⟨skip.rank, h.2.1⟩

/-- The segments before a token of the history, cut off where the token starts. -/
theorem Consecutive.cut {last index : Nat} {segs : List Segment} (h : Consecutive 0 segs last)
    {entry : HistoryEntry} (hentry : (segs.filterMap entry?)[index]? = some entry) :
    ∃ front, front <+: segs ∧ Consecutive 0 front entry.token.range.start ∧
      front.filterMap entry? = (segs.filterMap entry?).take index := by
  obtain ⟨hindex, hget⟩ := List.getElem?_eq_some_iff.1 hentry
  have hsplit := List.take_append_drop index (segs.filterMap entry?)
  rw [List.drop_eq_getElem_cons hindex, hget] at hsplit
  -- the segments of the earlier tokens, skipped text behind them, and the token
  obtain ⟨a, b, hsegs, ha, hb⟩ := List.filterMap_eq_append_iff.1 hsplit.symm
  obtain ⟨gap, seg, rest, rfl, hgap, hseg, -⟩ := List.filterMap_eq_cons_iff.1 hb
  rw [← List.append_assoc] at hsegs
  rw [hsegs] at h
  obtain ⟨middle, hfront, hstart, -⟩ := consecutive_append.1 h
  cases seg with
  | skipped skip => cases hseg
  | token entry' =>
    cases hseg
    refine ⟨a ++ gap, ?_, ?_, ?_⟩
    · rw [hsegs]
      exact List.prefix_append _ _
    · rw [show entry.token.range.start = middle from hstart]
      exact hfront
    · rw [List.filterMap_append, List.filterMap_eq_nil_iff.2 hgap, List.append_nil, ha]

end Segment

open Segment

namespace Tokenizer

variable {engine : RegexEngine} {options : MatchOptions} {patterns : List (Pattern engine options)}

/-! ## The invariant -/

/-- The input before the cursor is made up of tokens of the history and of skipped text. -/
structure Lossless (patterns : List (Pattern engine options)) (s : Tokenizer) : Prop where
  /-- The segments before the cursor. -/
  segments : ∃ segs, Consecutive 0 segs s.position ∧ segs.filterMap entry? = s.history ∧
    ∀ seg ∈ segs, seg.Faithful patterns s.ignored s.input
  /-- The cursor lies within the input. -/
  position_le : s.position ≤ s.input.byteLength
  /-- Neighbouring tokens differ. -/
  distinct : s.tokens.IsChain (· ≠ ·)

variable {s : Tokenizer} {restriction : Restriction}

/-- The segments bound the cursor. -/
theorem Lossless.of_segments (segs : List Segment) (h : Consecutive 0 segs s.position)
    (hhistory : segs.filterMap entry? = s.history)
    (hfaithful : ∀ seg ∈ segs, seg.Faithful patterns s.ignored s.input)
    (hdistinct : s.tokens.IsChain (· ≠ ·)) : Lossless patterns s := by
  refine ⟨⟨segs, h, hhistory, hfaithful⟩, ?_, hdistinct⟩
  apply h.le_of_forall (Nat.zero_le _)
  intro seg hseg
  obtain ⟨rank, hmatches⟩ := (hfaithful seg hseg).matchesAt
  exact hmatches.stop_le (h.order hseg).1

theorem lossless_start (hcursor : s.cursor = 0) (hhistory : s.history = []) :
    Lossless patterns s := by
  refine .of_segments [] hcursor.symm hhistory.symm ?_ ?_
  · intro seg hseg
    cases hseg
  · rw [tokens, hhistory]
    exact .nil

/-! ## Scans -/

theorem Skips.consecutive {ignored : List Nat} {input : Subject} {pos stop : Nat}
    {skips : List Skip} (h : Skips patterns ignored restriction input pos skips stop) :
    Consecutive pos (skips.map Segment.skipped) stop := by
  induction h with
  | stay pos => rfl
  | skip hwinner hignored hskips ih => exact ⟨rfl, Nat.le_add_right _ _, ih⟩

/-- Skipped text is a match of an ignored pattern, and not empty. -/
theorem Skips.faithful {ignored : List Nat} {input : Subject} {pos stop : Nat}
    {skips : List Skip} (h : Skips patterns ignored restriction input pos skips stop) :
    ∀ skip ∈ skips, (Segment.skipped skip).Faithful patterns ignored input := by
  induction h with
  | stay pos =>
    intro skip hskip
    cases hskip
  | skip hwinner hignored hskips ih =>
    intro skip hskip
    rcases List.mem_cons.1 hskip with rfl | hskip
    · have hpos := (fits_of_firstMatch hwinner).2 hignored
      exact ⟨hignored, (matchesAt_of_firstMatch hwinner).1, Nat.lt_add_of_pos_right hpos⟩
    · exact ih skip hskip

theorem filterMap_entry?_skipped (skips : List Skip) :
    (skips.map Segment.skipped).filterMap entry? = [] := by
  rw [List.filterMap_map]
  exact List.filterMap_eq_nil_iff.2 fun _ _ => rfl

/-- Skipping keeps the invariant. -/
theorem Lossless.skip (h : Lossless patterns s) {skips : List Skip} {stop : Nat}
    (hskips : Skips patterns s.ignored restriction s.input s.cursor skips stop) :
    Lossless patterns { s with cursor := stop } := by
  obtain ⟨segs, hsegs, hhistory, hfaithful⟩ := h.segments
  refine .of_segments (segs ++ skips.map Segment.skipped) ?_ ?_ ?_ h.distinct
  · exact consecutive_append.2 ⟨s.cursor, hsegs, hskips.consecutive⟩
  · rw [List.filterMap_append, filterMap_entry?_skipped, List.append_nil]
    exact hhistory
  · intro seg hseg
    rcases List.mem_append.1 hseg with hseg | hseg
    · exact hfaithful seg hseg
    · obtain ⟨skip, hskip, rfl⟩ := List.mem_map.1 hseg
      exact hskips.faithful skip hskip

theorem repeatsLast_iff (t : Token) :
    s.repeatsLast t = true ↔ ∃ entry, s.history.getLast? = some entry ∧
      entry.token.rank = t.rank ∧ entry.token.range = t.range := by
  rw [repeatsLast]
  cases s.history.getLast? with
  | none => simp
  | some entry => simp

/-- A token of the history is what its pattern makes of the input, and lies before the cursor. -/
theorem Lossless.faithful_token (h : Lossless patterns s) {entry : HistoryEntry}
    (hentry : entry ∈ s.history) :
    (Segment.token entry).Faithful patterns s.ignored s.input ∧
      entry.token.range.start ≤ entry.token.range.stop ∧ entry.token.range.stop ≤ s.cursor := by
  obtain ⟨segs, hsegs, hhistory, hfaithful⟩ := h.segments
  rw [← hhistory] at hentry
  obtain ⟨seg, hseg, hseg'⟩ := List.mem_filterMap.1 hentry
  cases seg with
  | skipped skip => cases hseg'
  | token entry' =>
    cases hseg'
    exact ⟨hfaithful _ hseg, hsegs.order hseg⟩

/-- A token of the history has a text in the input. -/
theorem Lossless.exists_text (h : Lossless patterns s) {entry : HistoryEntry}
    (hentry : entry ∈ s.history) : ∃ text, entry.token.range.textIn? s.input.text = some text := by
  obtain ⟨⟨-, -, ⟨p, -, hextent⟩, -⟩, horder, -⟩ := h.faithful_token hentry
  obtain ⟨text, htext⟩ := Pattern.exists_textIn?_of_extent? hextent
  rw [ByteRange.length, Nat.add_sub_cancel' horder] at htext
  exact ⟨text, htext⟩

/-- A scan that finds the last token once more ends where it started. -/
theorem cursor_of_repeatsLast (h : Lossless patterns s) {skips : List Skip} {stop : Nat}
    {w : Winner} (hskips : Skips patterns s.ignored restriction s.input s.cursor skips stop)
    (hrepeats : s.repeatsLast (w.tokenAt stop) = true) : stop + w.length = s.cursor := by
  obtain ⟨entry, hlast, -, hrange⟩ := (repeatsLast_iff _).1 hrepeats
  -- the last token ends at the cursor or before, and the one found starts there or behind
  have hstop := (h.faithful_token (List.mem_of_getLast? hlast)).2.2
  rw [hrange] at hstop
  have hforward := hskips.consecutive.le
  change stop + w.length ≤ s.cursor at hstop
  omega

/-- A token that is found where the cursor is keeps the invariant. -/
theorem Lossless.push (h : Lossless patterns s) {w : Winner}
    (hwinner : (firstMatch s.ignored restriction s.input s.cursor 0 patterns).1 = .ok (some w))
    (hignored : s.ignored.contains w.rank = false)
    (hrepeats : s.repeatsLast (w.tokenAt s.cursor) = false) :
    Lossless patterns
      { s with
        cursor := s.cursor + w.length
        history := s.history ++ [⟨w.tokenAt s.cursor, restriction⟩] } := by
  obtain ⟨segs, hsegs, hhistory, hfaithful⟩ := h.segments
  obtain ⟨hmatches, hname, -⟩ := matchesAt_of_firstMatch hwinner
  have hallowed : restriction ≠ [] → w.name ∈ restriction := name_mem_of_firstMatch hwinner hignored
  refine .of_segments (segs ++ [.token ⟨w.tokenAt s.cursor, restriction⟩]) ?_ ?_ ?_ ?_
  · exact consecutive_append.2 ⟨s.cursor, hsegs, rfl, Nat.le_add_right _ _, rfl⟩
  · rw [List.filterMap_append, hhistory]
    rfl
  · intro seg hseg
    rcases List.mem_append.1 hseg with hseg | hseg
    · exact hfaithful seg hseg
    · obtain rfl := List.mem_singleton.1 hseg
      exact ⟨hignored, hname, hmatches, hallowed⟩
  · rw [tokens, List.map_append]
    refine h.distinct.append (.singleton _) ?_
    intro t hlast u hu heq
    rw [tokens, List.getLast?_map] at hlast
    obtain ⟨entry, hentry, rfl⟩ := Option.map_eq_some_iff.1 hlast
    obtain rfl : w.tokenAt s.cursor = u := Option.some.inj hu
    -- were it the last token once more, the scan would have failed
    have hagain : s.repeatsLast (w.tokenAt s.cursor) = true := by
      apply (repeatsLast_iff _).2
      refine ⟨entry, hentry, ?_, ?_⟩
      · rw [heq]
      · rw [heq]
    rw [hrepeats] at hagain
    exact Bool.false_ne_true hagain

/-- However a scan ends, it keeps the invariant. -/
theorem Lossless.scan (h : Lossless patterns s) {index : Nat} {answer : Except TokenError Token}
    {s' : Tokenizer} (hscan : Scan patterns s index restriction answer s') :
    Lossless patterns s' := by
  cases hscan with
  | failed hskips hwinner => exact h.skip hskips
  | nothing hskips hwinner => exact h.skip hskips
  | repeated hskips hwinner hignored hrepeats =>
    rw [cursor_of_repeatsLast h hskips hrepeats]
    exact h
  | found hskips hwinner hignored hrepeats =>
    exact (h.skip hskips).push hwinner hignored hrepeats

/-! ## Commands -/

/-- Going back to a token cuts the segments off where the token starts. -/
theorem Lossless.returnTo (h : Lossless patterns s) {index : Nat} {entry : HistoryEntry}
    (hentry : s.history[index]? = some entry) :
    Lossless patterns
      { s with
        cursor := if index = 0 then 0 else entry.token.range.start
        history := s.history.take index } := by
  obtain ⟨segs, hsegs, hhistory, hfaithful⟩ := h.segments
  by_cases hindex : index = 0
  · -- text skipped before the first token is read again
    subst hindex
    exact lossless_start rfl rfl
  · rw [if_neg hindex]
    rw [← hhistory] at hentry
    obtain ⟨front, hfront, hconsecutive, hentries⟩ := hsegs.cut hentry
    rw [hhistory] at hentries
    refine .of_segments front hconsecutive hentries ?_ ?_
    · intro seg hseg
      exact hfaithful seg (hfront.subset hseg)
    · rw [tokens, List.map_take]
      exact h.distinct.take index

/-- Every step keeps the invariant. -/
theorem Lossless.step (h : Lossless patterns s) {c : TokenizerCommand}
    {answer : Option (Except TokenError Token)} {s' : Tokenizer}
    (hstep : Step patterns s c answer s') : Lossless patterns s' := by
  cases hstep with
  | stored hentry => exact h
  | beyond hindex => exact h
  | scan hscan => exact h.scan hscan
  | next hscan => exact h.scan hscan
  | returnTo hentry => exact h.returnTo hentry
  | stay hindex => exact h
  | restart input => exact lossless_start rfl rfl

/-- The invariant holds behind every run of commands. -/
theorem lossless_reached (r : Lexicon engine options) (ignored : List String) (input : Text)
    (cs : List TokenizerCommand) : Lossless r.patterns (reached r ignored input cs) :=
  runAll_induction (fun h hstep => h.step hstep) rfl (lossless_start rfl rfl) cs

/-- No step changes which patterns are ignored. -/
theorem ignored_step {c : TokenizerCommand} {answer : Option (Except TokenError Token)}
    {s' : Tokenizer} (hstep : Step patterns s c answer s') : s'.ignored = s.ignored := by
  cases hstep with
  | scan hscan => cases hscan <;> rfl
  | next hscan => cases hscan <;> rfl
  | _ => rfl

theorem ignored_reached (r : Lexicon engine options) (ignored : List String) (input : Text)
    (cs : List TokenizerCommand) :
    (reached r ignored input cs).ignored = ignored.filterMap r.rank? := by
  apply runAll_induction (P := fun s => s.ignored = ignored.filterMap r.rank?) ?_ rfl rfl cs
  intro s c answer s' h hstep
  rw [ignored_step hstep, h]

/-- Whatever commands a tokenizer has run, its position lies within its input, and the bytes
before it are made up of consecutive segments: the tokens of the history, in order, and matches of
ignored patterns, none of them empty. No token is that of an ignored pattern, all are what their
patterns make of the input under names that were asked for, and neighbouring tokens differ. -/
theorem tokens_tile_input (r : Lexicon engine options) (ignored : List String) (input : Text)
    (cs : List TokenizerCommand) :
    (∃ segs, Consecutive 0 segs (reached r ignored input cs).position ∧
      segs.filterMap entry? = (reached r ignored input cs).history ∧
      ∀ seg ∈ segs, seg.Faithful r.patterns (ignored.filterMap r.rank?)
        (reached r ignored input cs).input) ∧
    (reached r ignored input cs).position ≤ (reached r ignored input cs).input.byteLength ∧
    (reached r ignored input cs).tokens.IsChain (· ≠ ·) := by
  obtain ⟨hsegments, hposition, hdistinct⟩ := lossless_reached r ignored input cs
  rw [ignored_reached] at hsegments
  exact ⟨hsegments, hposition, hdistinct⟩

/-- A word between spaces, and a failed request behind it that has gone past the last space. -/
theorem tokens_tile_input_spaces :
    let r : Lexicon .backtracking {} := .ofList [("space", " +"), ("word", "a+")]
    let s := reached r ["space"] [' ', 'a', 'a', ' '] [.next [], .next []]
    s.tokens = [⟨1, "word", ⟨1, 3⟩⟩] ∧ s.position = 4 ∧
      ∃ segs, Consecutive 0 segs s.position ∧ segs.filterMap entry? = s.history ∧
        ∀ seg ∈ segs, seg.Faithful r.patterns [0] s.input := by
  intro r s
  obtain ⟨hsegments, -, -⟩ :=
    tokens_tile_input r ["space"] [' ', 'a', 'a', ' '] [.next [], .next []]
  exact ⟨by decide +kernel, by decide +kernel, hsegments⟩

end Tokenizer

end SheetLex
