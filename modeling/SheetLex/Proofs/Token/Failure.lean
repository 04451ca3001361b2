import SheetLex.Proofs.Token.Lossless
import SheetLex.Regex.Engine

/-!
# Requests that fail

A request for a token that fails leaves the input and the history as they were. It may move the
cursor, and then only forward, past matches of ignored patterns (`Scan.skips_of_error`): the search
went as far as that and found no token. A token that is found once more does not move it, since
such a token stands where the scan began.

Behind a failed scan nothing is left to skip, and what was in the way is still there, so the same
request fails in the same way again and leaves everything as it is (`Step.fails_again`).
-/

set_option autoImplicit false

namespace SheetLex.Tokenizer

open Segment

variable {engine : RegexEngine} {options : MatchOptions} {patterns : List (Pattern engine options)}
variable {s t : Tokenizer} {index : Nat} {restriction : Restriction} {e : TokenError}

/-! ## Failed scans -/

/-- A scan that fails leaves the cursor behind the matches that it went past, and nothing else
changed. -/
theorem Scan.skips_of_error (hs : Lossless patterns s)
    (h : Scan patterns s index restriction (.error e) t) :
    t = { s with cursor := t.cursor } ∧
      ∃ skips, Skips patterns s.ignored restriction s.input s.cursor skips t.cursor := by
  cases h with
  | failed hskips hwinner => exact ⟨rfl, _, hskips⟩
  | nothing hskips hwinner => exact ⟨rfl, _, hskips⟩
  | repeated hskips hwinner hignored hrepeats =>
    refine ⟨rfl, [], ?_⟩
    simp only [cursor_of_repeatsLast hs hskips hrepeats]
    exact .stay _

/-- Unless a pattern is at fault or nothing matches, a scan that fails has found the last token once
more, and stays where it was. -/
theorem Scan.cursor_of_error (hs : Lossless patterns s)
    (h : Scan patterns s index restriction (.error e) t) (hfault : e.isFault = false)
    (hmismatch : e.isMismatch = false) : t.cursor = s.cursor := by
  cases h with
  | failed hskips hwinner =>
    rw [isFault_of_firstMatch hwinner] at hfault
    cases hfault
  | nothing hskips hwinner =>
    rw [nothingFound] at hmismatch
    split at hmismatch <;> cases hmismatch
  | repeated hskips hwinner hignored hrepeats => exact cursor_of_repeatsLast hs hskips hrepeats

/-- From where a failed scan has left the cursor, the scan fails again and stays there. -/
theorem Scan.fails_again (hs : Lossless patterns s)
    (h : Scan patterns s index restriction (.error e) t) :
    Scan patterns t index restriction (.error e) t := by
  have hscan := h
  cases h with
  | failed hskips hwinner => exact .failed (.stay _) hwinner
  | nothing hskips hwinner => exact .nothing (.stay _) hwinner
  | repeated hskips hwinner hignored hrepeats =>
    rw [cursor_of_repeatsLast hs hskips hrepeats] at hscan ⊢
    exact hscan

/-! ## Failed requests -/

/-- A request that fails makes a scan that fails, or changes nothing. -/
theorem Step.scan_of_error
    (h : Step patterns s (.tokenAt index restriction) (some (.error e)) t) :
    (index = s.history.length ∧ Scan patterns s index restriction (.error e) t) ∨ t = s := by
  obtain ⟨entry, -, -, rfl⟩ | hscan | ⟨-, -, rfl⟩ := h.tokenAt_cases
  · exact .inr rfl
  · exact .inl hscan
  · exact .inr rfl

/-- A request that has failed fails again and changes nothing more. -/
theorem Step.fails_again (hs : Lossless patterns s)
    (h : Step patterns s (.tokenAt index restriction) (some (.error e)) t) :
    Step patterns t (.tokenAt index restriction) (some (.error e)) t := by
  obtain ⟨rfl, hscan⟩ | rfl := h.scan_of_error
  · -- the history is as long as it was, so the request is once more for the next token
    have hagain := hscan.fails_again hs
    have hhistory : t.history = s.history := by rw [(hscan.skips_of_error hs).1]
    rw [← hhistory] at hagain ⊢
    exact .scan hagain
  · exact h

/-- Whatever commands a tokenizer has run, if a request for a token fails, the input and the history
stay as they are, and the cursor goes forward past matches of ignored patterns at most, none of them
empty. If there is no such token, or the restriction has changed, the cursor stays as well. The same
request then fails in the same way once more, and changes nothing. -/
theorem tokenAt_of_error (r : Lexicon engine options) (ignored : List String) (input : Text)
    (cs : List TokenizerCommand)
    (hfailed : ((reached r ignored input cs).tokenAt
      (runAll r (ofInput r ignored input) cs).2 index restriction).1 = .error e) :
    let s := reached r ignored input cs
    let failed := s.tokenAt (runAll r (ofInput r ignored input) cs).2 index restriction
    let again := failed.2.1.tokenAt failed.2.2 index restriction
    failed.2.1.input = s.input ∧ failed.2.1.history = s.history ∧
      (∃ skips : List Skip,
        Consecutive s.position (skips.map Segment.skipped) failed.2.1.position ∧
        ∀ skip ∈ skips,
          (Segment.skipped skip).Faithful r.patterns (ignored.filterMap r.rank?) s.input) ∧
      ((∃ i, e = .noFurtherToken i ∨ e = .restrictionChanged i) →
        failed.2.1.position = s.position) ∧
      again.1 = .error e ∧ again.2.1 = failed.2.1 := by
  intro s failed again
  have hs : Lossless r.patterns s := lossless_reached r ignored input cs
  have hignored : s.ignored = ignored.filterMap r.rank? := ignored_reached r ignored input cs
  have hlexicon : (runAll r (ofInput r ignored input) cs).2.patterns = r.patterns :=
    patterns_runAll r _ cs
  have hlexicon' : failed.2.2.patterns = r.patterns :=
    (grows_tokenAt _ s _ _).patterns_eq.trans hlexicon
  have hstep : Step r.patterns s (.tokenAt index restriction) (some (.error e)) failed.2.1 := by
    have hrun := step_run (runAll r (ofInput r ignored input) cs).2 s (.tokenAt index restriction)
    rw [hlexicon] at hrun
    rw [← hfailed]
    exact hrun
  -- the second request is made of the tokenizer that the first one leaves behind
  have hagain : again.1 = .error e ∧ again.2.1 = failed.2.1 := by
    have hstep' := hstep.fails_again hs
    rw [← hlexicon'] at hstep'
    obtain ⟨hanswer, hbehind⟩ := hstep'.run_eq
    exact ⟨Option.some.inj hanswer, hbehind⟩
  obtain ⟨hindex, hscan⟩ | hsame := hstep.scan_of_error
  · obtain ⟨hbehind, skips, hskips⟩ := hscan.skips_of_error hs
    refine ⟨by rw [hbehind], by rw [hbehind], ⟨skips, hskips.consecutive, ?_⟩, ?_, hagain⟩
    · rw [← hignored]
      exact hskips.faithful
    · rintro ⟨i, rfl | rfl⟩
      · exact hscan.cursor_of_error hs rfl rfl
      · exact hscan.cursor_of_error hs rfl rfl
  · rw [hsame]
    refine ⟨rfl, rfl, ⟨[], rfl, ?_⟩, fun _ => rfl, hsame ▸ hagain⟩
    intro skip hskip
    cases hskip

/-- Behind a word, a request for a word goes past the spaces before a number and fails there, as it
does when it is made again. -/
theorem tokenAt_of_error_number :
    let r : Lexicon .backtracking {} := .ofList [("space", " "), ("word", "a+"), ("number", "1+")]
    let cs : List TokenizerCommand := [.next []]
    let s := reached r ["space"] ['a', ' ', ' ', '1'] cs
    let failed := s.tokenAt (runAll r (ofInput r ["space"] ['a', ' ', ' ', '1']) cs).2 1 ["word"]
    failed.1 = .error (.noMatchAmong 3 ["word"]) ∧ s.position = 1 ∧ failed.2.1.position = 3 ∧
      (failed.2.1.tokenAt failed.2.2 1 ["word"]).1 = .error (.noMatchAmong 3 ["word"]) := by
  intro r cs s failed
  have hfailed : failed.1 = .error (.noMatchAmong 3 ["word"]) := by decide +kernel
  have hagain := (tokenAt_of_error r ["space"] _ cs hfailed).2.2.2.2.1
  exact ⟨hfailed, by decide +kernel, by decide +kernel, hagain⟩

end SheetLex.Tokenizer
