import SheetLex.Proofs.Token.Progress
import SheetLex.Regex.Engine

/-!
# What comes of a request for the next token

The outcome of a scan can be told from the patterns alone, without the search for them. At an offset
the pattern that wins is the first one in order of precedence that takes part and matches, whatever
the others behind it match (`Wins`); an ignored pattern that matches no characters does not count.
While an ignored pattern wins, the scan goes past its match (`GoesPast`), so it comes to a chain of
offsets, each settled by the one before it (`Course`, `Course.unique`). What the patterns do at the
last of them is the outcome of the request (`Verdict`): nothing matches there, a token is found, the
last token is found once more, or a pattern fails before any has matched.

All offsets on the way lie within the input and on boundaries of characters
(`Lossless.isBoundary_cursor`), so a pattern that is tried and does not compile always fails.
-/

set_option autoImplicit false

namespace SheetLex

variable {engine : RegexEngine} {options : MatchOptions}

/-! ## When a pattern fails -/

namespace Pattern

variable {p : Pattern engine options} {input : Subject} {pos : Nat}

/-- Trying the pattern at an offset fails with the error given: the engine does not compile it, or
gives up the search from there on. -/
inductive Fails (p : Pattern engine options) (input : Subject) (pos : Nat) : TokenError → Prop where
  | invalid {message : String} : engine.compile options p.source = .error message →
      Fails p input pos (.invalidPattern p.name message)
  | givenUp {matcher : engine.Matcher} {message : String} :
      engine.compile options p.source = .ok matcher →
      engine.findFrom matcher input pos = .error message →
      Fails p input pos (.matchGivenUp p.name pos message)

theorem extent?_eq_error_iff {e : TokenError} (hpos : pos ≤ input.byteLength) :
    p.extent? input pos = .error e ↔ p.Fails input pos e := by
  rw [extent?, if_neg (Nat.not_lt_of_le hpos), p.matcher_get]
  constructor
  · intro h
    cases hcompile : engine.compile options p.source with
    | error message =>
      rw [hcompile] at h
      cases h
      exact .invalid hcompile
    | ok matcher =>
      cases hfind : engine.findFrom matcher input pos with
      | error message =>
        simp only [hcompile, hfind] at h
        cases h
        exact .givenUp hcompile hfind
      | ok found =>
        simp only [hcompile, hfind] at h
        cases h
  · intro h
    cases h with
    | invalid hcompile => simp only [hcompile]
    | givenUp hcompile hfind => simp only [hcompile, hfind]

end Pattern

namespace Tokenizer

open Segment

variable {patterns : List (Pattern engine options)} {s t : Tokenizer} {restriction : Restriction}
variable {pos next stop rank n : Nat} {p : Pattern engine options}

/-! ## What the patterns do at an offset -/

/-- A scan tries the pattern: it is not limited, or limited to names with that of the pattern among
them, or the pattern is ignored. -/
def TakesPart (s : Tokenizer) (restriction : Restriction) (rank : Nat)
    (p : Pattern engine options) : Prop :=
  restriction = [] ∨ p.name ∈ restriction ∨ rank ∈ s.ignored

/-- At the offset the pattern comes to nothing, if it takes part at all: it does not match, or it is
an ignored one and matches no characters. -/
def Idle (s : Tokenizer) (restriction : Restriction) (pos rank : Nat) (p : Pattern engine options) :
    Prop :=
  s.TakesPart restriction rank p →
    p.extent? s.input pos = .ok none ∨ p.extent? s.input pos = .ok (some 0) ∧ rank ∈ s.ignored

/-- The pattern, which has the rank given, is the first that matches at the offset, and takes `n`
bytes there. -/
structure Wins (patterns : List (Pattern engine options)) (s : Tokenizer)
    (restriction : Restriction) (pos rank : Nat) (p : Pattern engine options) (n : Nat) : Prop where
  listed : patterns[rank]? = some p
  takesPart : s.TakesPart restriction rank p
  extent : p.extent? s.input pos = .ok (some n)
  /-- An ignored pattern wins with characters only. -/
  length_pos : rank ∈ s.ignored → 0 < n
  /-- The patterns that come before it come to nothing. -/
  first : ∀ j q, j < rank → patterns[j]? = some q → s.Idle restriction pos j q

/-- At the offset a pattern fails with the error given, before any pattern has matched. -/
def Breaks (patterns : List (Pattern engine options)) (s : Tokenizer) (restriction : Restriction)
    (pos : Nat) (e : TokenError) : Prop :=
  ∃ rank p, patterns[rank]? = some p ∧ s.TakesPart restriction rank p ∧ p.Fails s.input pos e ∧
    ∀ j q, j < rank → patterns[j]? = some q → s.Idle restriction pos j q

theorem isEligible_iff :
    isEligible s.ignored restriction rank p.name = true ↔ s.TakesPart restriction rank p := by
  rw [isEligible, Restriction.allows, Bool.or_eq_true, Bool.or_eq_true, List.isEmpty_iff,
    List.contains_iff_mem, List.contains_iff_mem, TakesPart]
  tauto

theorem trial_eq_none_iff :
    trial s.ignored restriction s.input pos rank p = .ok none ↔
      s.Idle restriction pos rank p := by
  rw [trial, Idle]
  by_cases htakes : s.TakesPart restriction rank p
  · rw [if_pos (isEligible_iff.2 htakes)]
    rcases p.extent? s.input pos with e | (_ | _ | n)
    · simp [htakes]
    · simp [htakes]
    · simp [htakes]
    · simp [htakes]
  · rw [if_neg (mt isEligible_iff.1 htakes)]
    exact iff_of_true rfl fun h => absurd h htakes

theorem trial_eq_error_iff {e : TokenError} (hpos : pos ≤ s.input.byteLength) :
    trial s.ignored restriction s.input pos rank p = .error e ↔
      s.TakesPart restriction rank p ∧ p.Fails s.input pos e := by
  rw [← Pattern.extent?_eq_error_iff hpos, trial]
  by_cases htakes : s.TakesPart restriction rank p
  · rw [if_pos (isEligible_iff.2 htakes)]
    rcases p.extent? s.input pos with e | (_ | _ | n)
    · simp [htakes]
    · simp
    · cases s.ignored.contains rank <;> simp
    · simp
  · rw [if_neg (mt isEligible_iff.1 htakes)]
    simp [htakes]

theorem firstMatch_eq_some_iff_wins {w : Winner} :
    (firstMatch s.ignored restriction s.input pos 0 patterns).1 = .ok (some w) ↔
      ∃ p, w.name = p.name ∧ Wins patterns s restriction pos w.rank p w.length := by
  simp only [firstMatch_eq_some_iff, Nat.zero_add, trial_eq_some_iff, trial_eq_none_iff,
    List.contains_iff_mem]
  constructor
  · rintro ⟨i, p, hp, rfl, hname, ⟨htakes, hextent, hlength⟩, hfirst⟩
    exact ⟨p, hname, hp, isEligible_iff.1 htakes, hextent, hlength, hfirst⟩
  · rintro ⟨p, hname, hwins⟩
    exact ⟨w.rank, p, hwins.listed, rfl, hname,
      ⟨isEligible_iff.2 hwins.takesPart, hwins.extent, hwins.length_pos⟩, hwins.first⟩

theorem firstMatch_eq_error_iff_breaks {e : TokenError} (hpos : pos ≤ s.input.byteLength) :
    (firstMatch s.ignored restriction s.input pos 0 patterns).1 = .error e ↔
      Breaks patterns s restriction pos e := by
  simp only [firstMatch_eq_error_iff, Nat.zero_add, trial_eq_error_iff hpos, trial_eq_none_iff,
    and_assoc, Breaks]

theorem firstMatch_eq_none_iff_idle :
    (firstMatch s.ignored restriction s.input pos 0 patterns).1 = .ok none ↔
      ∀ rank p, patterns[rank]? = some p → s.Idle restriction pos rank p := by
  simp only [firstMatch_eq_none_iff, Nat.zero_add, trial_eq_none_iff]

theorem Wins.firstMatch_eq (h : Wins patterns s restriction pos rank p n) :
    (firstMatch s.ignored restriction s.input pos 0 patterns).1 = .ok (some ⟨rank, p.name, n⟩) :=
  firstMatch_eq_some_iff_wins.2 ⟨p, rfl, h⟩

/-! ## The offsets that a scan comes to -/

/-- An ignored pattern wins at the offset, and its match ends at the next one. -/
def GoesPast (patterns : List (Pattern engine options)) (s : Tokenizer) (restriction : Restriction)
    (pos next : Nat) : Prop :=
  ∃ rank p n, rank ∈ s.ignored ∧ Wins patterns s restriction pos rank p n ∧ next = pos + n

/-- From the first offset on, a scan comes to the offsets listed, and goes no further than the
last. -/
inductive Course (patterns : List (Pattern engine options)) (s : Tokenizer)
    (restriction : Restriction) : Nat → List Nat → Nat → Prop where
  | rests {pos : Nat} : (∀ next, ¬ GoesPast patterns s restriction pos next) →
      Course patterns s restriction pos [pos] pos
  | goesPast {pos next stop : Nat} {offsets : List Nat} :
      GoesPast patterns s restriction pos next → Course patterns s restriction next offsets stop →
      Course patterns s restriction pos (pos :: offsets) stop

theorem goesPast_iff :
    GoesPast patterns s restriction pos next ↔
      ∃ w, (firstMatch s.ignored restriction s.input pos 0 patterns).1 = .ok (some w) ∧
        s.ignored.contains w.rank = true ∧ next = pos + w.length := by
  simp only [List.contains_iff_mem]
  constructor
  · rintro ⟨rank, p, n, hignored, hwins, hnext⟩
    exact ⟨_, hwins.firstMatch_eq, hignored, hnext⟩
  · rintro ⟨w, hwinner, hignored, hnext⟩
    obtain ⟨p, -, hwins⟩ := firstMatch_eq_some_iff_wins.1 hwinner
    exact ⟨w.rank, p, w.length, hignored, hwins, hnext⟩

theorem GoesPast.unique {next' : Nat} (h : GoesPast patterns s restriction pos next)
    (h' : GoesPast patterns s restriction pos next') : next = next' := by
  obtain ⟨w, hwinner, -, rfl⟩ := goesPast_iff.1 h
  obtain ⟨w', hwinner', -, rfl⟩ := goesPast_iff.1 h'
  obtain rfl : w = w' := Option.some.inj (Except.ok.inj (hwinner.symm.trans hwinner'))
  rfl

/-- A scan goes on from an offset in one way only, and it stops or goes on. -/
theorem Course.unique {offsets offsets' : List Nat} {stop' : Nat}
    (h : Course patterns s restriction pos offsets stop)
    (h' : Course patterns s restriction pos offsets' stop') :
    offsets' = offsets ∧ stop' = stop := by
  induction h generalizing offsets' with
  | rests hrests =>
    cases h' with
    | rests => exact ⟨rfl, rfl⟩
    | goesPast hgoes => exact absurd hgoes (hrests _)
  | goesPast hgoes hcourse ih =>
    cases h' with
    | rests hrests => exact absurd hgoes (hrests _)
    | goesPast hgoes' hcourse' =>
      obtain rfl := hgoes.unique hgoes'
      obtain ⟨rfl, rfl⟩ := ih hcourse'
      exact ⟨rfl, rfl⟩

/-- The last offset of a course is where a search that starts at its first one may rest. -/
theorem Course.skips {offsets : List Nat} (h : Course patterns s restriction pos offsets stop) :
    ∃ skips, Skips patterns s.ignored restriction s.input pos skips stop := by
  induction h with
  | rests hrests => exact ⟨[], .stay _⟩
  | goesPast hgoes hcourse ih =>
    obtain ⟨w, hwinner, hignored, rfl⟩ := goesPast_iff.1 hgoes
    obtain ⟨skips, hskips⟩ := ih
    exact ⟨_, .skip hwinner hignored hskips⟩

/-- The matches that a search goes past make a course, if it rests behind them. -/
theorem Skips.course {skips : List Skip}
    (h : Skips patterns s.ignored restriction s.input pos skips stop)
    (hrests : Rests patterns s.ignored restriction s.input stop) :
    ∃ offsets, Course patterns s restriction pos offsets stop := by
  induction h with
  | stay pos =>
    refine ⟨[pos], .rests ?_⟩
    intro next hgoes
    obtain ⟨w, hwinner, hignored, -⟩ := goesPast_iff.1 hgoes
    rw [hrests w hwinner] at hignored
    cases hignored
  | skip hwinner hignored hskips ih =>
    obtain ⟨offsets, hcourse⟩ := ih hrests
    exact ⟨_, .goesPast (goesPast_iff.2 ⟨_, hwinner, hignored, rfl⟩) hcourse⟩

/-! ## Offsets on the way -/

/-- Segments that are matches end on the boundary of a character if they begin on one. -/
theorem isBoundary_of_consecutive {input : Subject} {ignored : List Nat} {segs : List Segment}
    {first last : Nat} (h : Consecutive first segs last)
    (hfaithful : ∀ seg ∈ segs, seg.Faithful patterns ignored input)
    (hfirst : input.IsBoundary first) : input.IsBoundary last := by
  induction segs generalizing first with
  | nil => exact h ▸ hfirst
  | cons seg segs ih =>
    obtain ⟨-, horder, hrest⟩ := h
    obtain ⟨rank, p, -, hextent⟩ := (hfaithful seg List.mem_cons_self).matchesAt
    have hstop := (Pattern.contains_of_extent? hextent).isBoundary_stop
    simp only [ByteRange.length, Nat.add_sub_cancel' horder] at hstop
    exact ih hrest (fun next hnext => hfaithful next (List.mem_cons_of_mem seg hnext)) hstop

/-- The cursor lies on the boundary of a character. -/
theorem Lossless.isBoundary_cursor (h : Lossless patterns s) : s.input.IsBoundary s.cursor := by
  obtain ⟨segs, hsegs, -, hfaithful⟩ := h.segments
  exact isBoundary_of_consecutive hsegs hfaithful s.input.isBoundary_zero

/-! ## The outcome -/

/-- What comes of a request for the next token under the restriction, when the scan has come to the
offset `stop` and goes no further: the answer, and the tokenizer behind it. -/
inductive Verdict (patterns : List (Pattern engine options)) (s : Tokenizer)
    (restriction : Restriction) (stop : Nat) : Except TokenError Token → Tokenizer → Prop where
  /-- No pattern matches. -/
  | nothing : (∀ rank p, patterns[rank]? = some p → s.Idle restriction stop rank p) →
      restriction = [] →
      Verdict patterns s restriction stop (.error (.noMatch stop)) { s with cursor := stop }
  /-- No pattern matches of those that the request is limited to. -/
  | nothingAmong : (∀ rank p, patterns[rank]? = some p → s.Idle restriction stop rank p) →
      restriction ≠ [] →
      Verdict patterns s restriction stop (.error (.noMatchAmong stop restriction))
        { s with cursor := stop }
  /-- A pattern fails before any has matched. -/
  | broken {e : TokenError} : Breaks patterns s restriction stop e →
      Verdict patterns s restriction stop (.error e) { s with cursor := stop }
  /-- A pattern that is not ignored wins, and the last token is not the same match. -/
  | found {rank n : Nat} {p : Pattern engine options} : Wins patterns s restriction stop rank p n →
      rank ∉ s.ignored →
      (∀ entry, s.history.getLast? = some entry →
        entry.token.rank ≠ rank ∨ entry.token.range ≠ ⟨stop, stop + n⟩) →
      Verdict patterns s restriction stop (.ok ⟨rank, p.name, ⟨stop, stop + n⟩⟩)
        { s with
          cursor := stop + n
          history := s.history ++ [⟨⟨rank, p.name, ⟨stop, stop + n⟩⟩, restriction⟩] }
  /-- A pattern that is not ignored wins, and the last token is the same match. -/
  | repeated {rank n : Nat} {p : Pattern engine options} {entry : HistoryEntry} :
      Wins patterns s restriction stop rank p n → rank ∉ s.ignored →
      s.history.getLast? = some entry → entry.token.rank = rank →
      entry.token.range = ⟨stop, stop + n⟩ →
      Verdict patterns s restriction stop (.error (.noFurtherToken s.history.length)) s

variable {answer : Except TokenError Token}

theorem repeatsLast_eq_false_iff (t : Token) :
    s.repeatsLast t = false ↔ ∀ entry, s.history.getLast? = some entry →
      entry.token.rank ≠ t.rank ∨ entry.token.range ≠ t.range := by
  rw [← Bool.not_eq_true, repeatsLast_iff]
  constructor
  · intro h entry hlast
    by_contra hsame
    rw [not_or, not_not, not_not] at hsame
    exact h ⟨entry, hlast, hsame⟩
  · rintro h ⟨entry, hlast, hrank, hrange⟩
    exact (h entry hlast).elim (absurd hrank) (absurd hrange)

/-- A scan follows a course, and what the patterns do at its end is the outcome. -/
theorem Scan.verdict (hs : Lossless patterns s)
    (h : Scan patterns s s.history.length restriction answer t) :
    ∃ offsets stop, Course patterns s restriction s.cursor offsets stop ∧
      Verdict patterns s restriction stop answer t := by
  cases h with
  | @failed skips stop e hskips hwinner =>
    obtain ⟨offsets, hcourse⟩ := hskips.course (rests_of_no_winner (by simp [hwinner]))
    refine ⟨offsets, stop, hcourse, .broken ((firstMatch_eq_error_iff_breaks ?_).1 hwinner)⟩
    exact (hs.skip hskips).isBoundary_cursor.le_byteLength
  | @nothing skips stop hskips hwinner =>
    obtain ⟨offsets, hcourse⟩ := hskips.course (rests_of_no_winner (by simp [hwinner]))
    refine ⟨offsets, stop, hcourse, ?_⟩
    have hidle := firstMatch_eq_none_iff_idle.1 hwinner
    cases restriction with
    | nil => exact .nothing hidle rfl
    | cons name names => exact .nothingAmong hidle (List.cons_ne_nil name names)
  | @repeated skips stop w hskips hwinner hignored hrepeats =>
    obtain ⟨offsets, hcourse⟩ := hskips.course (rests_of_winner hwinner hignored)
    obtain ⟨p, -, hwins⟩ := firstMatch_eq_some_iff_wins.1 hwinner
    obtain ⟨entry, hlast, hrank, hrange⟩ := (repeatsLast_iff _).1 hrepeats
    rw [cursor_of_repeatsLast hs hskips hrepeats]
    refine ⟨offsets, stop, hcourse, .repeated hwins ?_ hlast hrank hrange⟩
    simpa using hignored
  | @found skips stop w hskips hwinner hignored hrepeats =>
    obtain ⟨offsets, hcourse⟩ := hskips.course (rests_of_winner hwinner hignored)
    obtain ⟨p, hname, hwins⟩ := firstMatch_eq_some_iff_wins.1 hwinner
    have hnew := (repeatsLast_eq_false_iff _).1 hrepeats
    rw [Winner.tokenAt, hname]
    refine ⟨offsets, stop, hcourse, .found hwins ?_ hnew⟩
    simpa using hignored

/-- Whatever the outcome at the end of the course is, a scan has it. -/
theorem Verdict.scan (hs : Lossless patterns s) {offsets : List Nat}
    (hcourse : Course patterns s restriction s.cursor offsets stop)
    (h : Verdict patterns s restriction stop answer t) :
    Scan patterns s s.history.length restriction answer t := by
  obtain ⟨skips, hskips⟩ := hcourse.skips
  cases h with
  | nothing hidle hrestriction =>
    subst hrestriction
    exact .nothing hskips (firstMatch_eq_none_iff_idle.2 hidle)
  | nothingAmong hidle hrestriction =>
    have hscan : Scan patterns s s.history.length restriction
        (.error (nothingFound restriction stop)) { s with cursor := stop } :=
      .nothing hskips (firstMatch_eq_none_iff_idle.2 hidle)
    rwa [nothingFound, if_neg (by simpa using hrestriction)] at hscan
  | broken hbreaks =>
    refine .failed hskips ((firstMatch_eq_error_iff_breaks ?_).2 hbreaks)
    exact (hs.skip hskips).isBoundary_cursor.le_byteLength
  | found hwins hignored hnew =>
    refine .found hskips hwins.firstMatch_eq ?_ ((repeatsLast_eq_false_iff _).2 hnew)
    simpa using hignored
  | @repeated rank n p entry hwins hignored hlast hrank hrange =>
    have hrepeats : s.repeatsLast (Winner.tokenAt ⟨rank, p.name, n⟩ stop) = true :=
      (repeatsLast_iff _).2 ⟨entry, hlast, hrank, hrange⟩
    have hscan : Scan patterns s s.history.length restriction
        (.error (.noFurtherToken s.history.length)) { s with cursor := stop + n } :=
      .repeated hskips hwins.firstMatch_eq (by simpa using hignored) hrepeats
    rwa [cursor_of_repeatsLast hs hskips hrepeats] at hscan

/-- Whatever commands a tokenizer has run, a request for the next token comes to one chain of
offsets, from the cursor past the matches of ignored patterns. What the patterns do at the last of
them settles the answer, and the tokenizer behind it. -/
theorem tokenAt_verdict (r : Lexicon engine options) (ignored : List String) (input : Text)
    (cs : List TokenizerCommand) (restriction : Restriction) :
    let s := reached r ignored input cs
    let asked := s.tokenAt (runAll r (ofInput r ignored input) cs).2 s.history.length restriction
    s.ignored = ignored.filterMap r.rank? ∧
      ∃ offsets stop, Course r.patterns s restriction s.cursor offsets stop ∧
        (∀ offsets' stop', Course r.patterns s restriction s.cursor offsets' stop' →
          offsets' = offsets ∧ stop' = stop) ∧
        Verdict r.patterns s restriction stop asked.1 asked.2.1 ∧
        ∀ answer t, Verdict r.patterns s restriction stop answer t →
          answer = asked.1 ∧ t = asked.2.1 := by
  intro s asked
  have hs : Lossless r.patterns s := lossless_reached r ignored input cs
  have hscan : Scan r.patterns s s.history.length restriction asked.1 asked.2.1 := by
    have hadvance := scan_advance (runAll r (ofInput r ignored input) cs).2 s s.history.length
      restriction
    rw [patterns_runAll] at hadvance
    simp only [asked, tokenAt_length]
    exact hadvance
  obtain ⟨offsets, stop, hcourse, hverdict⟩ := hscan.verdict hs
  refine ⟨ignored_reached r ignored input cs, offsets, stop, hcourse, ?_, hverdict, ?_⟩
  · intro offsets' stop' hcourse'
    exact hcourse.unique hcourse'
  · intro answer t hverdict'
    exact (hverdict'.scan hs hcourse).unique hscan

/-- Behind a space that is ignored, a letter is found, though the pattern behind it matches more. -/
theorem tokenAt_verdict_letter :
    let r : Lexicon .backtracking {} := .ofList [("space", " +"), ("letter", "a"), ("word", "a+")]
    let s := reached r ["space"] [' ', 'a', 'a'] []
    let asked := s.tokenAt r s.history.length []
    let t : Token := ⟨1, "letter", ⟨1, 2⟩⟩
    asked.1 = .ok t ∧ ∃ offsets stop, Course r.patterns s [] 0 offsets stop ∧
      Verdict r.patterns s [] stop (.ok t) asked.2.1 := by
  intro r s asked t
  have hasked : asked.1 = .ok t := by decide +kernel
  obtain ⟨-, offsets, stop, hcourse, -, hverdict, -⟩ :=
    tokenAt_verdict r ["space"] [' ', 'a', 'a'] [] []
  refine ⟨hasked, offsets, stop, hcourse, ?_⟩
  rw [← hasked]
  exact hverdict

end Tokenizer

end SheetLex
