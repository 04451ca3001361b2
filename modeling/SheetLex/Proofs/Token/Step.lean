import SheetLex.Proofs.Token.Search
import SheetLex.Audit.Tokens

/-!
# What a command does to a tokenizer

`Scan` lists the ways in which a scan ends, and `Step` those in which a command does: a token is
recalled, an index is out of reach, a scan is made, the tokenizer goes back or starts over.
Nothing else happens (`step_run`), and which of them is settled by the patterns alone
(`Step.run_eq`). The lexicon has more patterns compiled behind a command, and is otherwise the same
(`grows_run`). What every step preserves therefore holds behind every run of commands
(`runAll_induction`).
-/

set_option autoImplicit false

namespace SheetLex

/-- The token of a winner at the offset given. -/
def Winner.tokenAt (w : Winner) (pos : Nat) : Token := ⟨w.rank, w.name, ⟨pos, pos + w.length⟩⟩

variable {engine : RegexEngine} {options : MatchOptions} {patterns : List (Pattern engine options)}

/-! ## Lexicons -/

namespace Lexicon

/-- The second lexicon is the first one with more patterns compiled, perhaps, and no other
difference. -/
structure Grows (r r' : Lexicon engine options) : Prop where
  patterns_eq : r'.patterns = r.patterns
  attempted : ∀ {rank : Nat}, r.isAttempted rank = true → r'.isAttempted rank = true

theorem Grows.refl (r : Lexicon engine options) : r.Grows r := ⟨rfl, id⟩

theorem Grows.trans {r r' r'' : Lexicon engine options} (h : r.Grows r') (h' : r'.Grows r'') :
    r.Grows r'' :=
  ⟨h'.patterns_eq.trans h.patterns_eq, fun hrank => h'.attempted (h.attempted hrank)⟩

theorem isAttempted_markAttempted (r : Lexicon engine options) (ranks : List Nat) (rank : Nat) :
    (r.markAttempted ranks).isAttempted rank = true ↔ r.isAttempted rank = true ∨ rank ∈ ranks := by
  simp only [isAttempted, List.contains_iff_mem, markAttempted]
  generalize r.attempted = seen
  induction ranks generalizing seen with
  | nil => simp
  | cons next ranks ih =>
    rw [List.foldl_cons, ih, List.mem_insert_iff, List.mem_cons]
    rw [or_assoc, or_left_comm]

theorem grows_markAttempted (r : Lexicon engine options) (ranks : List Nat) :
    r.Grows (r.markAttempted ranks) :=
  ⟨rfl, fun hrank => (r.isAttempted_markAttempted ranks _).2 (.inl hrank)⟩

theorem Grows.markAttempted {r r' : Lexicon engine options} (h : r.Grows r') (ranks : List Nat) :
    (r.markAttempted ranks).Grows (r'.markAttempted ranks) := by
  refine ⟨h.patterns_eq, ?_⟩
  intro rank hrank
  rw [isAttempted_markAttempted] at hrank ⊢
  exact hrank.imp_left h.attempted

end Lexicon

namespace Tokenizer

/-! ## Scans -/

/-- The answer to a scan and the tokenizer behind it; `index` is the number of the token that was
asked for. -/
inductive Scan (patterns : List (Pattern engine options)) (s : Tokenizer) (index : Nat)
    (restriction : Restriction) : Except TokenError Token → Tokenizer → Prop where
  /-- A pattern is at fault. -/
  | failed {skips : List Skip} {stop : Nat} {e : TokenError} :
      Skips patterns s.ignored restriction s.input s.cursor skips stop →
      (firstMatch s.ignored restriction s.input stop 0 patterns).1 = .error e →
      Scan patterns s index restriction (.error e) { s with cursor := stop }
  /-- No pattern matches. -/
  | nothing {skips : List Skip} {stop : Nat} :
      Skips patterns s.ignored restriction s.input s.cursor skips stop →
      (firstMatch s.ignored restriction s.input stop 0 patterns).1 = .ok none →
      Scan patterns s index restriction (.error (nothingFound restriction stop))
        { s with cursor := stop }
  /-- The last token is found once more. -/
  | repeated {skips : List Skip} {stop : Nat} {w : Winner} :
      Skips patterns s.ignored restriction s.input s.cursor skips stop →
      (firstMatch s.ignored restriction s.input stop 0 patterns).1 = .ok (some w) →
      s.ignored.contains w.rank = false → s.repeatsLast (w.tokenAt stop) = true →
      Scan patterns s index restriction (.error (.noFurtherToken index))
        { s with cursor := stop + w.length }
  /-- A token is found. -/
  | found {skips : List Skip} {stop : Nat} {w : Winner} :
      Skips patterns s.ignored restriction s.input s.cursor skips stop →
      (firstMatch s.ignored restriction s.input stop 0 patterns).1 = .ok (some w) →
      s.ignored.contains w.rank = false → s.repeatsLast (w.tokenAt stop) = false →
      Scan patterns s index restriction (.ok (w.tokenAt stop))
        { s with
          cursor := stop + w.length
          history := s.history ++ [⟨w.tokenAt stop, restriction⟩] }

/-- Advancing is a scan. -/
theorem scan_advance (r : Lexicon engine options) (s : Tokenizer) (index : Nat)
    (restriction : Restriction) :
    Scan r.patterns s index restriction (advance r s index restriction).1
      (advance r s index restriction).2.1 := by
  obtain ⟨skips, hskips, hwinner, hkept⟩ :=
    find_spec r.patterns s.ignored restriction s.input s.cursor
  -- only what the search found matters from here on
  rw [advance]
  generalize find r.patterns s.ignored restriction s.input s.cursor = finding
    at hskips hwinner hkept
  obtain ⟨winner, stop, tried⟩ := finding
  simp only at hskips hwinner hkept ⊢
  cases winner with
  | error e => exact .failed hskips hwinner
  | ok found =>
    cases found with
    | none => exact .nothing hskips hwinner
    | some w =>
      have hignored := hkept w rfl
      simp only
      split
      · rename_i hrepeats
        exact .repeated hskips hwinner hignored hrepeats
      · rename_i hrepeats
        exact .found hskips hwinner hignored (Bool.eq_false_iff.2 hrepeats)

/-- There is no other scan than advancing: how a scan ends is settled by where it begins. -/
theorem Scan.advance_eq {r : Lexicon engine options} {s s' : Tokenizer} {index : Nat}
    {restriction : Restriction} {answer : Except TokenError Token}
    (h : Scan r.patterns s index restriction answer s') :
    (advance r s index restriction).1 = answer ∧ (advance r s index restriction).2.1 = s' := by
  cases h with
  | failed hskips hwinner =>
    obtain ⟨hoffset, hfind⟩ := hskips.find_of_rests (rests_of_no_winner (by simp [hwinner]))
    rw [hwinner] at hfind
    rw [advance]
    simp only [hoffset, hfind, and_self]
  | nothing hskips hwinner =>
    obtain ⟨hoffset, hfind⟩ := hskips.find_of_rests (rests_of_no_winner (by simp [hwinner]))
    rw [hwinner] at hfind
    rw [advance]
    simp only [hoffset, hfind, and_self]
  | repeated hskips hwinner hignored hrepeats =>
    obtain ⟨hoffset, hfind⟩ := hskips.find_of_rests (rests_of_winner hwinner hignored)
    rw [hwinner] at hfind
    rw [advance]
    simp only [hoffset, hfind]
    split
    · exact ⟨rfl, rfl⟩
    · rename_i hnot
      exact absurd hrepeats hnot
  | found hskips hwinner hignored hrepeats =>
    obtain ⟨hoffset, hfind⟩ := hskips.find_of_rests (rests_of_winner hwinner hignored)
    rw [hwinner] at hfind
    rw [advance]
    simp only [hoffset, hfind]
    split
    · rename_i hagain
      exact absurd hagain (Bool.eq_false_iff.1 hrepeats)
    · exact ⟨rfl, rfl⟩

/-- Advancing compiles the patterns that it tries. -/
theorem lexicon_advance (r : Lexicon engine options) (s : Tokenizer) (index : Nat)
    (restriction : Restriction) :
    (advance r s index restriction).2.2 =
      r.markAttempted (find r.patterns s.ignored restriction s.input s.cursor).tried := by
  rw [advance]
  generalize find r.patterns s.ignored restriction s.input s.cursor = finding
  obtain ⟨winner, stop, tried⟩ := finding
  cases winner with
  | error e => rfl
  | ok found =>
    cases found with
    | none => rfl
    | some w =>
      simp only
      split <;> rfl

theorem grows_advance (r : Lexicon engine options) (s : Tokenizer) (index : Nat)
    (restriction : Restriction) : r.Grows (advance r s index restriction).2.2 := by
  rw [lexicon_advance]
  exact r.grows_markAttempted _

/-! ## Commands -/

/-- The answer to a command and the tokenizer behind it. -/
inductive Step (patterns : List (Pattern engine options)) (s : Tokenizer) :
    TokenizerCommand → Option (Except TokenError Token) → Tokenizer → Prop where
  /-- A token of the history is asked for. -/
  | stored {index : Nat} {entry : HistoryEntry} {restriction : Restriction} :
      s.history[index]? = some entry →
      Step patterns s (.tokenAt index restriction) (some (storedToken entry index restriction)) s
  /-- A token beyond the next one is asked for. -/
  | beyond {index : Nat} {restriction : Restriction} : s.history.length < index →
      Step patterns s (.tokenAt index restriction) (some (.error (.noFurtherToken index))) s
  /-- The next token is asked for by its number. -/
  | scan {restriction : Restriction} {answer : Except TokenError Token} {s' : Tokenizer} :
      Scan patterns s s.history.length restriction answer s' →
      Step patterns s (.tokenAt s.history.length restriction) (some answer) s'
  /-- The next token is asked for. -/
  | next {restriction : Restriction} {answer : Except TokenError Token} {s' : Tokenizer} :
      Scan patterns s s.history.length restriction answer s' →
      Step patterns s (.next restriction) (some answer) s'
  /-- The tokenizer goes back to a token. -/
  | returnTo {index : Nat} {entry : HistoryEntry} : s.history[index]? = some entry →
      Step patterns s (.returnTo index) none
        { s with
          cursor := if index = 0 then 0 else entry.token.range.start
          history := s.history.take index }
  /-- There is no token to go back to. -/
  | stay {index : Nat} : s.history.length ≤ index → Step patterns s (.returnTo index) none s
  /-- The tokenizer starts over with another input. -/
  | restart (input : Text) : Step patterns s (.restart input) none (s.restart input)

theorem tokenAt_of_getElem? (r : Lexicon engine options) {s : Tokenizer} {index : Nat}
    {entry : HistoryEntry} (h : s.history[index]? = some entry) (restriction : Restriction) :
    tokenAt r s index restriction = (storedToken entry index restriction, s, r) := by
  rw [tokenAt, h]

theorem tokenAt_length (r : Lexicon engine options) (s : Tokenizer) (restriction : Restriction) :
    tokenAt r s s.history.length restriction = advance r s s.history.length restriction := by
  rw [tokenAt, List.getElem?_eq_none (Nat.le_refl _)]
  exact if_pos rfl

theorem tokenAt_of_length_lt (r : Lexicon engine options) {s : Tokenizer} {index : Nat}
    (h : s.history.length < index) (restriction : Restriction) :
    tokenAt r s index restriction = (.error (.noFurtherToken index), s, r) := by
  rw [tokenAt, List.getElem?_eq_none (Nat.le_of_lt h)]
  exact if_neg (Nat.ne_of_gt h)

theorem returnTo_of_getElem? {s : Tokenizer} {index : Nat} {entry : HistoryEntry}
    (h : s.history[index]? = some entry) :
    s.returnTo index =
      { s with
        cursor := if index = 0 then 0 else entry.token.range.start
        history := s.history.take index } := by
  rw [returnTo, h]

/-- Running a command is a step. -/
theorem step_run (r : Lexicon engine options) (s : Tokenizer) (c : TokenizerCommand) :
    Step r.patterns s c (c.run r s).1 (c.run r s).2.1 := by
  cases c with
  | tokenAt index restriction =>
    change Step r.patterns s _ (some (tokenAt r s index restriction).1)
      (tokenAt r s index restriction).2.1
    -- the index lies within the history, right behind it, or beyond
    rcases Nat.lt_trichotomy index s.history.length with h | rfl | h
    · have hentry := List.getElem?_eq_getElem h
      rw [tokenAt_of_getElem? r hentry]
      exact .stored hentry
    · rw [tokenAt_length]
      exact .scan (scan_advance r s _ restriction)
    · rw [tokenAt_of_length_lt r h]
      exact .beyond h
  | next restriction =>
    change Step r.patterns s _ (some (tokenAt r s s.history.length restriction).1)
      (tokenAt r s s.history.length restriction).2.1
    rw [tokenAt_length]
    exact .next (scan_advance r s _ restriction)
  | returnTo index =>
    change Step r.patterns s _ none (s.returnTo index)
    rw [Tokenizer.returnTo]
    split
    · rename_i entry hentry
      exact .returnTo hentry
    · rename_i hnone
      exact .stay (List.getElem?_eq_none_iff.1 hnone)
  | restart input => exact .restart input

/-- There is no other step than running the command, whatever patterns have been compiled. -/
theorem Step.run_eq {r : Lexicon engine options} {s t : Tokenizer} {c : TokenizerCommand}
    {answer : Option (Except TokenError Token)} (h : Step r.patterns s c answer t) :
    (c.run r s).1 = answer ∧ (c.run r s).2.1 = t := by
  cases h with
  | @stored index entry restriction hentry =>
    change some (tokenAt r s index restriction).1 = _ ∧ (tokenAt r s index restriction).2.1 = s
    rw [tokenAt_of_getElem? r hentry]
    exact ⟨rfl, rfl⟩
  | @beyond index restriction hindex =>
    change some (tokenAt r s index restriction).1 = _ ∧ (tokenAt r s index restriction).2.1 = s
    rw [tokenAt_of_length_lt r hindex]
    exact ⟨rfl, rfl⟩
  | @scan restriction answer t hscan =>
    change some (tokenAt r s _ restriction).1 = _ ∧ (tokenAt r s _ restriction).2.1 = t
    rw [tokenAt_length, hscan.advance_eq.1]
    exact ⟨rfl, hscan.advance_eq.2⟩
  | @next restriction answer t hscan =>
    change some (tokenAt r s _ restriction).1 = _ ∧ (tokenAt r s _ restriction).2.1 = t
    rw [tokenAt_length, hscan.advance_eq.1]
    exact ⟨rfl, hscan.advance_eq.2⟩
  | returnTo hentry =>
    exact ⟨rfl, returnTo_of_getElem? hentry⟩
  | stay hindex =>
    refine ⟨rfl, ?_⟩
    change s.returnTo _ = s
    rw [Tokenizer.returnTo, List.getElem?_eq_none hindex]
  | restart input => exact ⟨rfl, rfl⟩

/-- A request for the token with the index given recalls a token, makes a scan, or reaches beyond
the next token. -/
theorem Step.tokenAt_cases {s t : Tokenizer} {index : Nat} {restriction : Restriction}
    {answer : Except TokenError Token}
    (h : Step patterns s (.tokenAt index restriction) (some answer) t) :
    (∃ entry, s.history[index]? = some entry ∧ answer = storedToken entry index restriction ∧
        t = s) ∨
      (index = s.history.length ∧ Scan patterns s index restriction answer t) ∨
      (s.history.length < index ∧ answer = .error (.noFurtherToken index) ∧ t = s) := by
  cases h with
  | stored hentry => exact .inl ⟨_, hentry, rfl, rfl⟩
  | scan hscan => exact .inr (.inl ⟨rfl, hscan⟩)
  | beyond hindex => exact .inr (.inr ⟨hindex, rfl, rfl⟩)

theorem grows_tokenAt (r : Lexicon engine options) (s : Tokenizer) (index : Nat)
    (restriction : Restriction) : r.Grows (tokenAt r s index restriction).2.2 := by
  rw [tokenAt]
  split
  · exact .refl r
  · split
    · exact grows_advance r s index restriction
    · exact .refl r

/-- Running a command compiles patterns and changes none. -/
theorem grows_run (r : Lexicon engine options) (s : Tokenizer) (c : TokenizerCommand) :
    r.Grows (c.run r s).2.2 := by
  cases c with
  | tokenAt index restriction => exact grows_tokenAt r s index restriction
  | next restriction => exact grows_tokenAt r s _ restriction
  | returnTo index => exact .refl r
  | restart input => exact .refl r

theorem patterns_run (r : Lexicon engine options) (s : Tokenizer) (c : TokenizerCommand) :
    (c.run r s).2.2.patterns = r.patterns := (grows_run r s c).patterns_eq

/-! ## Runs -/

/-- Run commands one after the other. -/
def runAll :
    Lexicon engine options → Tokenizer → List TokenizerCommand → Tokenizer × Lexicon engine options
  | r, s, [] => (s, r)
  | r, s, c :: cs => runAll (c.run r s).2.2 (c.run r s).2.1 cs

theorem patterns_runAll (r : Lexicon engine options) (s : Tokenizer) (cs : List TokenizerCommand) :
    (runAll r s cs).2.patterns = r.patterns := by
  induction cs generalizing r s with
  | nil => rfl
  | cons c cs ih => rw [runAll, ih, patterns_run]

theorem runAll_append (r : Lexicon engine options) (s : Tokenizer) (cs ds : List TokenizerCommand) :
    runAll r s (cs ++ ds) = runAll (runAll r s cs).2 (runAll r s cs).1 ds := by
  induction cs generalizing r s with
  | nil => rfl
  | cons c cs ih => exact ih _ _

/-- The tokenizer that a run of commands leads to from the start of an input. -/
def reached (r : Lexicon engine options) (ignored : List String) (input : Text)
    (cs : List TokenizerCommand) : Tokenizer := (runAll r (ofInput r ignored input) cs).1

/-- What every step preserves holds behind a run. -/
theorem runAll_induction {P : Tokenizer → Prop}
    (hstep : ∀ {s : Tokenizer} {c : TokenizerCommand} {answer} {s' : Tokenizer},
      P s → Step patterns s c answer s' → P s')
    {r : Lexicon engine options} (hr : r.patterns = patterns) {s : Tokenizer} (hs : P s)
    (cs : List TokenizerCommand) : P (runAll r s cs).1 := by
  induction cs generalizing r s with
  | nil => exact hs
  | cons c cs ih =>
    subst hr
    exact ih (patterns_run r s c) (hstep hs (step_run r s c))

end Tokenizer

end SheetLex
