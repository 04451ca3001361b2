import SheetLex.Proofs.Token.Lossless
import SheetLex.Regex.Engine

/-!
# Scanning comes to an end

Every match that a search goes past takes a byte at least, so there are no more of them than bytes
behind the cursor (`Skips.length_add_le`).

Scans that are repeated under one restriction find tokens and at last fail (`Drains`). All but the
last of the tokens take bytes. A token may be empty, and the cursor does not pass it then; but the
next scan finds the same token, which has nothing skipped before it, and fails
(`Scan.repeats_of_isEmpty`). So the bytes behind the cursor bound the tokens as well, up to one
(`Drains.length_le`), and there is always an end (`exists_drains`).
-/

set_option autoImplicit false

namespace SheetLex.Tokenizer

variable {engine : RegexEngine} {options : MatchOptions} {patterns : List (Pattern engine options)}
variable {s t u : Tokenizer} {index : Nat} {restriction : Restriction}

/-! ## Searches -/

/-- Every match gone past takes a byte. -/
theorem Skips.length_add_le {ignored : List Nat} {input : Subject} {pos stop : Nat}
    {skips : List Skip} (h : Skips patterns ignored restriction input pos skips stop) :
    pos + skips.length ≤ stop := by
  induction h with
  | stay pos => exact Nat.le_refl pos
  | @skip pos stop w skips hwinner hignored hskips ih =>
    have hlength := (fits_of_firstMatch hwinner).2 hignored
    rw [List.length_cons]
    omega

/-- Matches gone past lie within the input. -/
theorem Skips.stop_le {ignored : List Nat} {input : Subject} {pos stop : Nat}
    {skips : List Skip} (h : Skips patterns ignored restriction input pos skips stop)
    (hpos : pos ≤ input.byteLength) : stop ≤ input.byteLength := by
  induction h with
  | stay pos => exact hpos
  | skip hwinner hignored hskips ih => exact ih (fits_of_firstMatch hwinner).1

/-! ## Scans -/

/-- How a scan ends is settled by where it begins. -/
theorem Scan.unique {answer answer' : Except TokenError Token}
    (h : Scan patterns s index restriction answer t)
    (h' : Scan patterns s index restriction answer' u) : answer = answer' ∧ t = u := by
  let r : Lexicon engine options := { patterns }
  obtain ⟨hanswer, hbehind⟩ := Scan.advance_eq (r := r) h
  obtain ⟨hanswer', hbehind'⟩ := Scan.advance_eq (r := r) h'
  exact ⟨hanswer.symm.trans hanswer', hbehind.symm.trans hbehind'⟩

/-- The number of bytes that are still to be read. -/
def remaining (s : Tokenizer) : Nat := s.input.byteLength - s.position

/-- A scan that finds a token leaves less to be read, unless the token is empty. -/
theorem Scan.remaining_lt {token : Token} (h : Scan patterns s index restriction (.ok token) t)
    (hempty : token.isEmpty = false) : t.remaining < s.remaining := by
  cases h with
  | @found skips stop w hskips hwinner hignored hrepeats =>
    have hforward := hskips.length_add_le
    have hfits := (fits_of_firstMatch hwinner).1
    have hrange : stop ≠ stop + w.length := beq_eq_false_iff_ne.1 hempty
    simp only [remaining, position]
    omega

theorem Scan.length_history_of_found {token : Token}
    (h : Scan patterns s index restriction (.ok token) t) :
    t.history.length = s.history.length + 1 := by
  cases h with
  | found hskips hwinner hignored hrepeats => exact List.length_append

/-- Behind an empty token the same scan finds that token once more, and fails. -/
theorem Scan.repeats_of_isEmpty {token : Token}
    (h : Scan patterns s index restriction (.ok token) t) (hempty : token.isEmpty = true)
    (index' : Nat) : Scan patterns t index' restriction (.error (.noFurtherToken index')) t := by
  cases h with
  | @found skips stop w hskips hwinner hignored hrepeats =>
    obtain ⟨rank, name, length⟩ := w
    obtain rfl : length = 0 := by
      have hrange := beq_iff_eq.1 hempty
      simp only [Winner.tokenAt] at hrange
      omega
    -- the cursor is where the token is, and the same pattern wins there
    refine .repeated (.stay stop) hwinner hignored ?_
    exact (repeatsLast_iff _).2 ⟨_, List.getLast?_concat, rfl, rfl⟩

/-! ## Repeated scans -/

/-- Scans under one restriction find the tokens listed, one after the other, and then fail with the
error given. -/
inductive Drains (patterns : List (Pattern engine options)) (restriction : Restriction) :
    Tokenizer → List Token → TokenError → Prop where
  | fails {s t : Tokenizer} {e : TokenError} :
      Scan patterns s s.history.length restriction (.error e) t → Drains patterns restriction s [] e
  | finds {s t : Tokenizer} {token : Token} {tokens : List Token} {e : TokenError} :
      Scan patterns s s.history.length restriction (.ok token) t →
      Drains patterns restriction t tokens e → Drains patterns restriction s (token :: tokens) e

variable {tokens : List Token} {e : TokenError}

/-- A scan is what asking for the next token does, and it changes no pattern. -/
theorem Scan.next_eq {r : Lexicon engine options} {answer : Except TokenError Token}
    (h : Scan r.patterns s s.history.length restriction answer t) :
    ∃ r' : Lexicon engine options,
      s.next r restriction = (answer, t, r') ∧ r'.patterns = r.patterns := by
  obtain ⟨hanswer, hbehind⟩ := h.advance_eq
  refine ⟨_, ?_, (grows_advance r s s.history.length restriction).patterns_eq⟩
  rw [next, tokenAt_length]
  exact Prod.ext hanswer (Prod.ext hbehind rfl)

/-- Scanning on to the first error gives the tokens and the error, if the bound is no less. -/
theorem Drains.nextWhile_eq (h : Drains patterns restriction s tokens e) {bound : Nat}
    (hbound : tokens.length < bound) {r : Lexicon engine options} (hr : r.patterns = patterns) :
    (nextWhile (fun _ => false) restriction bound r s).1 = tokens.map .ok ++ [.error e] := by
  induction h generalizing bound r with
  | fails hscan =>
    subst hr
    obtain ⟨r', hnext, -⟩ := hscan.next_eq
    cases bound with
    | zero => exact absurd hbound (Nat.not_lt_zero _)
    | succ bound =>
      rw [nextWhile, hnext]
      rfl
  | finds hscan hdrains ih =>
    subst hr
    obtain ⟨r', hnext, hr'⟩ := hscan.next_eq
    cases bound with
    | zero => exact absurd hbound (Nat.not_lt_zero _)
    | succ bound =>
      rw [nextWhile, hnext]
      exact congrArg (List.cons _) (ih (Nat.lt_of_succ_lt_succ hbound) hr')

/-- Behind an empty token there is no other one. -/
theorem Drains.of_isEmpty {token : Token}
    (hscan : Scan patterns s s.history.length restriction (.ok token) t)
    (hempty : token.isEmpty = true) (h : Drains patterns restriction t tokens e) :
    tokens = [] ∧ e = .noFurtherToken t.history.length := by
  have hagain := hscan.repeats_of_isEmpty hempty t.history.length
  cases h with
  | fails hfails =>
    obtain ⟨hanswer, -⟩ := hfails.unique hagain
    exact ⟨rfl, Except.error.inj hanswer⟩
  | finds hfinds hdrains =>
    obtain ⟨hanswer, -⟩ := hfinds.unique hagain
    cases hanswer

/-- Only the last token may be empty, and then it is found once more. -/
theorem Drains.eq_nil_of_isEmpty (h : Drains patterns restriction s tokens e)
    {before behind : List Token} {token : Token} (htokens : tokens = before ++ token :: behind)
    (hempty : token.isEmpty = true) :
    behind = [] ∧ e = .noFurtherToken (s.history.length + tokens.length) := by
  induction h generalizing before with
  | fails hscan => simp at htokens
  | @finds s t first rest e hscan hdrains ih =>
    have hlength := hscan.length_history_of_found
    cases before with
    | nil =>
      obtain ⟨rfl, rfl⟩ := List.cons.inj htokens
      obtain ⟨rfl, rfl⟩ := hdrains.of_isEmpty hscan hempty
      exact ⟨rfl, by rw [hlength, List.length_singleton]⟩
    | cons first' before =>
      obtain ⟨-, hrest⟩ := List.cons.inj htokens
      obtain ⟨hbehind, rfl⟩ := ih hrest
      refine ⟨hbehind, ?_⟩
      rw [hlength, List.length_cons, Nat.add_assoc, Nat.add_comm 1]

/-- There are no more tokens than bytes to be read, up to an empty one. -/
theorem Drains.length_le (h : Drains patterns restriction s tokens e) :
    tokens.length ≤ s.remaining + 1 := by
  induction h with
  | fails hscan => exact Nat.zero_le _
  | @finds s t token tokens e hscan hdrains ih =>
    cases hempty : token.isEmpty with
    | true =>
      obtain ⟨rfl, -⟩ := hdrains.of_isEmpty hscan hempty
      exact Nat.le_add_left 1 _
    | false =>
      have hless := hscan.remaining_lt hempty
      rw [List.length_cons]
      omega

/-- Repeated scans fail at last. -/
theorem exists_drains (patterns : List (Pattern engine options)) (restriction : Restriction)
    (s : Tokenizer) : ∃ tokens e, Drains patterns restriction s tokens e := by
  -- on the number of bytes to be read, which all tokens but an empty one lessen
  induction hbytes : s.remaining using Nat.strong_induction_on generalizing s with
  | _ bytes ih =>
    have hscan := scan_advance { patterns } s s.history.length restriction
    generalize (advance { patterns } s s.history.length restriction).1 = answer at hscan
    generalize (advance { patterns } s s.history.length restriction).2.1 = t at hscan
    cases answer with
    | error e => exact ⟨[], e, .fails hscan⟩
    | ok token =>
      cases hempty : token.isEmpty with
      | true => exact ⟨[token], _, .finds hscan (.fails (hscan.repeats_of_isEmpty hempty _))⟩
      | false =>
        have hless := hscan.remaining_lt hempty
        obtain ⟨tokens, e, hdrains⟩ := ih t.remaining (hbytes ▸ hless) t rfl
        exact ⟨token :: tokens, e, .finds hscan hdrains⟩

/-- Whatever commands a tokenizer has run: a search under any restriction goes past no more matches
than there are bytes behind the cursor, and ends where none is left to go past. Scans that are
repeated under one restriction fail after at most one token more than there are bytes behind the
cursor. Only the last of the tokens may be empty, and then the scan behind it finds no further
token. -/
theorem nextWhile_ends (r : Lexicon engine options) (ignored : List String) (input : Text)
    (cs : List TokenizerCommand) (restriction : Restriction) :
    let s := reached r ignored input cs
    let r' := (runAll r (ofInput r ignored input) cs).2
    let stop := (find r.patterns s.ignored restriction s.input s.position).offset
    s.position ≤ s.input.byteLength ∧
      (∀ skips stop, Skips r.patterns s.ignored restriction s.input s.position skips stop →
        skips.length ≤ s.input.byteLength - s.position) ∧
      (∃ skips, Skips r.patterns s.ignored restriction s.input s.position skips stop ∧
        Rests r.patterns s.ignored restriction s.input stop) ∧
      ∃ tokens e, tokens.length ≤ s.input.byteLength - s.position + 1 ∧
        (∀ bound, tokens.length < bound →
          (nextWhile (fun _ => false) restriction bound r' s).1 = tokens.map .ok ++ [.error e]) ∧
        ∀ before token behind, tokens = before ++ token :: behind → token.isEmpty = true →
          behind = [] ∧ e = .noFurtherToken (s.history.length + tokens.length) := by
  intro s r' stop
  have hposition := (lossless_reached r ignored input cs).position_le
  refine ⟨hposition, ?_, ?_, ?_⟩
  · intro skips stop hskips
    have hlength := hskips.length_add_le
    have hstop := hskips.stop_le hposition
    omega
  · obtain ⟨skips, hskips, -, -⟩ :=
      find_spec r.patterns s.ignored restriction s.input s.position
    exact ⟨skips, hskips, rests_find r.patterns s.ignored restriction s.input s.position⟩
  · obtain ⟨tokens, e, hdrains⟩ := exists_drains r.patterns restriction s
    refine ⟨tokens, e, hdrains.length_le, ?_, ?_⟩
    · intro bound hbound
      exact hdrains.nextWhile_eq hbound (patterns_runAll r _ cs)
    · intro before token behind htokens hempty
      exact hdrains.eq_nil_of_isEmpty htokens hempty

/-- A pattern that can match no characters does so once, behind the word. -/
theorem nextWhile_ends_empty :
    let r : Lexicon .backtracking {} := .ofList [("word", "a*")]
    let s := reached r [] ['a', 'a'] []
    (nextWhile (fun _ => false) [] 4 r s).1 =
        [.ok ⟨0, "word", ⟨0, 2⟩⟩, .ok ⟨0, "word", ⟨2, 2⟩⟩, .error (.noFurtherToken 2)] ∧
      ∃ (tokens : List Token) (e : TokenError), tokens.length ≤ 3 ∧
        (nextWhile (fun _ => false) [] 4 r s).1 = tokens.map .ok ++ [.error e] := by
  intro r s
  obtain ⟨-, -, -, tokens, e, hlength, hdrains, -⟩ := nextWhile_ends r [] ['a', 'a'] [] []
  exact ⟨by decide +kernel, tokens, e, hlength, hdrains 4 (Nat.lt_succ_of_le hlength)⟩

end SheetLex.Tokenizer
