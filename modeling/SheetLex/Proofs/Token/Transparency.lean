import SheetLex.Proofs.Token.Lossless
import SheetLex.Regex.Engine

/-!
# Failing commands leave no trace

A scan that fails has gone past ignored text, so the tokenizer behind it differs from the one
before it. The difference shows later on only if it depends on the restriction which text is
skipped. It does not where ignored text is unambiguous (`Unambiguous`): the search for a token then
ends at one offset, whatever it looks for (`Unambiguous.offset_find`).

Two tokenizers that differ in their cursors only, and from whose cursors a search ends at the same
offset (`Meets`), give the same answers to every command and meet again behind it
(`Meets.run`). A command that fails leads to a tokenizer that meets the one before it
(`meets_of_failed`), so commands that failed can be left out of a run
(`trace_keepWhere`).
-/

set_option autoImplicit false

namespace SheetLex

/-- The input that a command brings. -/
def TokenizerCommand.input? : TokenizerCommand → Option Text
  | .restart input => some input
  | _ => none

namespace Tokenizer

variable {engine : RegexEngine} {options : MatchOptions} {patterns : List (Pattern engine options)}
variable {ignored : List Nat} {restriction : Restriction} {input : Subject} {pos stop : Nat}

/-! ## Unambiguous ignored text -/

/-- Every pattern can be tried wherever a character begins and at the end, and where an ignored
pattern matches some text, no pattern that is not ignored matches. -/
structure Unambiguous (patterns : List (Pattern engine options)) (ignored : List Nat)
    (input : Subject) : Prop where
  answers : ∀ p ∈ patterns, ∀ pos, input.IsBoundary pos → ∃ found, p.extent? input pos = .ok found
  apart : ∀ {rank rank' : Nat} {p q : Pattern engine options} {pos m n : Nat},
    patterns[rank]? = some p → patterns[rank']? = some q →
    ignored.contains rank = true → ignored.contains rank' = false →
    p.extent? input pos = .ok (some m) → 0 < m → q.extent? input pos ≠ .ok (some n)

/-- Whether one of the ignored patterns matches some text at the offset, or one of the others
matches. -/
def matchesSome (patterns : List (Pattern engine options)) (ignored : List Nat) (input : Subject)
    (pos : Nat) (isIgnored : Bool) : Bool :=
  patterns.zipIdx.any fun (p, rank) =>
    ignored.contains rank == isIgnored &&
      match p.extent? input pos with
      | .ok (some n) => !isIgnored || decide (0 < n)
      | _ => false

theorem matchesSome_iff {isIgnored : Bool} :
    matchesSome patterns ignored input pos isIgnored = true ↔
      ∃ rank p n, patterns[rank]? = some p ∧ ignored.contains rank = isIgnored ∧
        p.extent? input pos = .ok (some n) ∧ (isIgnored = true → 0 < n) := by
  rw [matchesSome, List.any_eq_true]
  constructor
  · rintro ⟨⟨p, rank⟩, hp, h⟩
    obtain ⟨hignored, hmatch⟩ := (Bool.and_eq_true _ _).mp h
    split at hmatch
    · rename_i n hextent
      refine ⟨rank, p, n, List.mem_zipIdx_iff_getElem?.1 hp, beq_iff_eq.1 hignored, hextent, ?_⟩
      intro hi
      simpa [hi] using hmatch
    · cases hmatch
  · rintro ⟨rank, p, n, hp, hignored, hextent, hpos⟩
    refine ⟨(p, rank), List.mem_zipIdx_iff_getElem?.2 hp, ?_⟩
    simp only [hignored, hextent, beq_self_eq_true, Bool.true_and]
    cases isIgnored with
    | true => exact decide_eq_true (hpos rfl)
    | false => rfl

/-- Only the offsets within the input need to be looked at. -/
theorem unambiguous_iff :
    Unambiguous patterns ignored input ↔ ∀ pos < input.byteLength + 1,
      (input.IsBoundary pos → (patterns.all fun p => (p.extent? input pos).isOk) = true) ∧
        (matchesSome patterns ignored input pos true &&
          matchesSome patterns ignored input pos false) = false := by
  constructor
  · intro h pos _
    refine ⟨?_, ?_⟩
    · intro hboundary
      rw [List.all_eq_true]
      intro p hp
      obtain ⟨found, hfound⟩ := h.answers p hp pos hboundary
      rw [hfound]
      rfl
    · rw [Bool.eq_false_iff]
      intro hboth
      obtain ⟨hignored, hother⟩ := (Bool.and_eq_true _ _).mp hboth
      obtain ⟨rank, p, m, hp, hrank, hextent, hpos⟩ := matchesSome_iff.1 hignored
      obtain ⟨rank', q, n, hq, hrank', hextent', -⟩ := matchesSome_iff.1 hother
      exact h.apart hp hq hrank hrank' hextent (hpos rfl) hextent'
  · intro h
    refine ⟨?_, ?_⟩
    · intro p hp pos hboundary
      have hpos := Nat.lt_succ_of_le hboundary.le_byteLength
      have hok := List.all_eq_true.1 ((h pos hpos).1 hboundary) p hp
      cases hextent : p.extent? input pos with
      | ok found => exact ⟨found, rfl⟩
      | error e =>
        rw [hextent] at hok
        cases hok
    · intro rank rank' p q pos m n hp hq hrank hrank' hextent hm hextent'
      -- a match begins within the input
      have hboundary := (Pattern.contains_of_extent? hextent).isBoundary_start
      have hboth := (h pos (Nat.lt_succ_of_le hboundary.le_byteLength)).2
      rw [matchesSome_iff.2 ⟨rank, p, m, hp, hrank, hextent, fun _ => hm⟩,
        matchesSome_iff.2 ⟨rank', q, n, hq, hrank', hextent', fun h => by cases h⟩] at hboth
      cases hboth

instance (patterns : List (Pattern engine options)) (ignored : List Nat) (input : Subject) :
    Decidable (Unambiguous patterns ignored input) :=
  decidable_of_iff _ unambiguous_iff.symm

/-- Trying an ignored pattern does not depend on the restriction. -/
theorem trial_of_ignored {rank : Nat} (h : ignored.contains rank = true)
    (p : Pattern engine options) (restriction restriction' : Restriction) :
    trial ignored restriction input pos rank p = trial ignored restriction' input pos rank p := by
  rw [trial, trial, isEligible, isEligible, h, Bool.true_or, Bool.true_or]

/-- A pattern that does not match comes to nothing when it is tried. -/
theorem trial_eq_none {rank : Nat} {p : Pattern engine options}
    (h : p.extent? input pos = .ok none) :
    trial ignored restriction input pos rank p = .ok none := by
  rw [trial, h]
  split <;> rfl

/-- An ignored pattern that wins under one restriction wins under every other one. -/
theorem Unambiguous.firstMatch_eq (h : Unambiguous patterns ignored input) {w : Winner}
    (hwinner : (firstMatch ignored restriction input pos 0 patterns).1 = .ok (some w))
    (hignored : ignored.contains w.rank = true) (restriction' : Restriction) :
    (firstMatch ignored restriction' input pos 0 patterns).1 = .ok (some w) := by
  obtain ⟨i, p, hp, hrank, hname, htrial, hbefore⟩ := firstMatch_eq_some_iff.1 hwinner
  rw [Nat.zero_add] at hrank htrial
  rw [hrank] at hignored
  obtain ⟨-, hextent, hpos⟩ := trial_eq_some_iff.1 htrial
  apply firstMatch_eq_some_iff.2
  refine ⟨i, p, hp, by rw [Nat.zero_add, hrank], hname, ?_, ?_⟩
  · rw [Nat.zero_add, trial_of_ignored hignored p restriction' restriction]
    exact htrial
  · intro j q hj hq
    have hnone := hbefore j q hj hq
    rw [Nat.zero_add] at hnone ⊢
    cases hkept : ignored.contains j with
    | true => rw [trial_of_ignored hkept q restriction' restriction, hnone]
    | false =>
      -- the pattern in front gives an answer, and it cannot match beside the ignored one
      have hboundary := (Pattern.contains_of_extent? hextent).isBoundary_start
      obtain ⟨found, hfound⟩ := h.answers q (List.mem_of_getElem? hq) pos hboundary
      cases found with
      | none => exact trial_eq_none hfound
      | some n => exact absurd hfound (h.apart hp hq hignored hkept hextent (hpos hignored))

/-- What is gone past under one restriction is gone past under every other one. -/
theorem Unambiguous.skips (h : Unambiguous patterns ignored input) {skips : List Skip}
    (hskips : Skips patterns ignored restriction input pos skips stop)
    (restriction' : Restriction) :
    Skips patterns ignored restriction' input pos skips stop := by
  induction hskips with
  | stay pos => exact .stay pos
  | skip hwinner hignored hrest ih =>
    exact .skip (h.firstMatch_eq hwinner hignored restriction') hignored ih

/-- Where a search under one restriction rests, searches under all others do. -/
theorem Unambiguous.rests (h : Unambiguous patterns ignored input)
    (hrests : Rests patterns ignored restriction input pos) (restriction' : Restriction) :
    Rests patterns ignored restriction' input pos := by
  intro w hw
  cases hignored : ignored.contains w.rank with
  | false => rfl
  | true =>
    rw [← hignored]
    exact hrests w (h.firstMatch_eq hw hignored restriction)

/-- The offset where a search without restriction ends. -/
def landing (patterns : List (Pattern engine options)) (ignored : List Nat) (input : Subject)
    (pos : Nat) : Nat := (find patterns ignored [] input pos).offset

/-- A search that has gone past some text will end where it would have from the start. -/
theorem Unambiguous.landing_eq (h : Unambiguous patterns ignored input) {skips : List Skip}
    (hskips : Skips patterns ignored restriction input pos skips stop) :
    landing patterns ignored input stop = landing patterns ignored input pos :=
  (h.skips hskips []).offset_find.symm

theorem Unambiguous.landing_of_rests (h : Unambiguous patterns ignored input)
    (hrests : Rests patterns ignored restriction input pos) :
    landing patterns ignored input pos = pos :=
  offset_find_of_rests (h.rests hrests [])

/-- Every search ends at the same offset. -/
theorem Unambiguous.offset_find (h : Unambiguous patterns ignored input)
    (restriction : Restriction) (pos : Nat) :
    (find patterns ignored restriction input pos).offset = landing patterns ignored input pos := by
  obtain ⟨skips, hskips, -, -⟩ := find_spec patterns ignored restriction input pos
  rw [← h.landing_eq hskips]
  exact (h.landing_of_rests (rests_find patterns ignored restriction input pos)).symm

/-! ## Tokenizers that meet -/

/-- The tokenizers differ in their cursors only, and searches from either cursor end at the same
offset. -/
structure Meets (patterns : List (Pattern engine options)) (s t : Tokenizer) : Prop where
  eq_with : t = { s with cursor := t.cursor }
  landing_eq : landing patterns s.ignored s.input t.cursor =
    landing patterns s.ignored s.input s.cursor

variable {s t u : Tokenizer}

theorem Meets.refl (s : Tokenizer) : Meets patterns s s := ⟨rfl, rfl⟩

/-- If the second of two tokenizers that meet is replaced by the one before it, they still meet. -/
theorem Meets.exchange (hst : Meets patterns s t) (hsu : Meets patterns s u) :
    Meets patterns t u := by
  obtain ⟨ht, hlanding⟩ := hst
  obtain ⟨hu, hlanding'⟩ := hsu
  generalize t.cursor = c at ht hlanding
  generalize u.cursor = d at hu hlanding'
  subst ht hu
  exact ⟨rfl, hlanding'.trans hlanding.symm⟩

/-- What a scan does depends on the cursor only through what the search finds. -/
theorem advance_congr {r r' : Lexicon engine options} (hr : r'.patterns = r.patterns) {c : Nat}
    (hoffset : (find r.patterns s.ignored restriction s.input c).offset =
      (find r.patterns s.ignored restriction s.input s.cursor).offset) (index : Nat) :
    (advance r' { s with cursor := c } index restriction).1 =
        (advance r s index restriction).1 ∧
      (advance r' { s with cursor := c } index restriction).2.1 =
        (advance r s index restriction).2.1 := by
  have hwinner : (find r.patterns s.ignored restriction s.input c).winner =
      (find r.patterns s.ignored restriction s.input s.cursor).winner := by
    rw [winner_find, winner_find, hoffset]
  rw [advance, advance, hr]
  simp only
  -- of either search, the answer uses the winner and the offset
  generalize find r.patterns s.ignored restriction s.input c = finding at hoffset hwinner
  generalize find r.patterns s.ignored restriction s.input s.cursor = finding' at hoffset hwinner
  obtain ⟨winner, offset, tried⟩ := finding
  obtain ⟨winner', offset', tried'⟩ := finding'
  subst hoffset hwinner
  cases winner with
  | error e => exact ⟨rfl, rfl⟩
  | ok found =>
    cases found with
    | none => exact ⟨rfl, rfl⟩
    | some w =>
      simp only
      split
      · exact ⟨rfl, rfl⟩
      · exact ⟨rfl, rfl⟩

/-- Tokenizers that meet answer a request for a token alike, and meet behind it. -/
theorem Meets.tokenAt (hmeets : Meets patterns s t) (h : Unambiguous patterns s.ignored s.input)
    {r r' : Lexicon engine options} (hr : r.patterns = patterns) (hr' : r'.patterns = patterns)
    (index : Nat) (restriction : Restriction) :
    (t.tokenAt r' index restriction).1 = (s.tokenAt r index restriction).1 ∧
      Meets patterns (s.tokenAt r index restriction).2.1 (t.tokenAt r' index restriction).2.1 := by
  obtain ⟨ht, hlanding⟩ := hmeets
  generalize t.cursor = c at ht hlanding
  subst ht hr
  rcases Nat.lt_trichotomy index s.history.length with hindex | rfl | hindex
  · have hentry := List.getElem?_eq_getElem hindex
    rw [tokenAt_of_getElem? r hentry,
      tokenAt_of_getElem? (s := { s with cursor := c }) r' hentry]
    exact ⟨rfl, rfl, hlanding⟩
  · -- both scans find the same, and lead to the same tokenizer
    have hoffset : (find r.patterns s.ignored restriction s.input c).offset =
        (find r.patterns s.ignored restriction s.input s.cursor).offset := by
      rw [h.offset_find, h.offset_find, hlanding]
    obtain ⟨hanswer, hbehind⟩ := advance_congr hr' hoffset s.history.length
    have hscan : ({ s with cursor := c } : Tokenizer).tokenAt r' s.history.length restriction =
        advance r' { s with cursor := c } s.history.length restriction :=
      tokenAt_length r' { s with cursor := c } restriction
    rw [hscan, hanswer, hbehind, tokenAt_length]
    exact ⟨rfl, .refl _⟩
  · rw [tokenAt_of_length_lt r hindex,
      tokenAt_of_length_lt (s := { s with cursor := c }) r' hindex]
    exact ⟨rfl, rfl, hlanding⟩

/-- Going back leads tokenizers that meet to the same place, or leaves both where they are. -/
theorem Meets.returnTo (hmeets : Meets patterns s t) (index : Nat) :
    Meets patterns (s.returnTo index) (t.returnTo index) := by
  obtain ⟨ht, hlanding⟩ := hmeets
  generalize t.cursor = c at ht hlanding
  subst ht
  rw [Tokenizer.returnTo, Tokenizer.returnTo]
  simp only
  split
  · exact .refl _
  · exact ⟨rfl, hlanding⟩

/-- Tokenizers that meet answer every command alike, and meet behind it. -/
theorem Meets.run (hmeets : Meets patterns s t) (h : Unambiguous patterns s.ignored s.input)
    {r r' : Lexicon engine options} (hr : r.patterns = patterns) (hr' : r'.patterns = patterns)
    (c : TokenizerCommand) :
    (c.run r' t).1 = (c.run r s).1 ∧ Meets patterns (c.run r s).2.1 (c.run r' t).2.1 := by
  cases c with
  | tokenAt index restriction =>
    obtain ⟨hanswer, hbehind⟩ := hmeets.tokenAt h hr hr' index restriction
    exact ⟨congrArg some hanswer, hbehind⟩
  | next restriction =>
    have hhistory : t.history = s.history := by rw [hmeets.eq_with]
    obtain ⟨hanswer, hbehind⟩ := hmeets.tokenAt h hr hr' s.history.length restriction
    change some (t.tokenAt r' t.history.length restriction).1 =
        some (s.tokenAt r s.history.length restriction).1 ∧
      Meets patterns (s.tokenAt r s.history.length restriction).2.1
        (t.tokenAt r' t.history.length restriction).2.1
    rw [hhistory]
    exact ⟨congrArg some hanswer, hbehind⟩
  | returnTo index => exact ⟨rfl, hmeets.returnTo index⟩
  | restart input =>
    obtain ⟨ht, -⟩ := hmeets
    generalize t.cursor = d at ht
    subst ht
    exact ⟨rfl, .refl _⟩

/-! ## Failing commands -/

/-- A scan that fails goes past ignored text at most. -/
theorem meets_of_scan_failed (h : Unambiguous patterns s.ignored s.input)
    (hs : Lossless patterns s) {index : Nat} {e : TokenError} {s' : Tokenizer}
    (hscan : Scan patterns s index restriction (.error e) s') : Meets patterns s s' := by
  cases hscan with
  | failed hskips hwinner => exact ⟨rfl, h.landing_eq hskips⟩
  | nothing hskips hwinner => exact ⟨rfl, h.landing_eq hskips⟩
  | repeated hskips hwinner hignored hrepeats =>
    rw [cursor_of_repeatsLast hs hskips hrepeats]
    exact .refl s

/-- A command that fails leads to a tokenizer that meets the one before it. -/
theorem meets_of_failed (h : Unambiguous patterns s.ignored s.input) (hs : Lossless patterns s)
    {c : TokenizerCommand} {e : TokenError} {s' : Tokenizer}
    (hstep : Step patterns s c (some (.error e)) s') : Meets patterns s s' := by
  generalize hanswer : (some (.error e) : Option (Except TokenError Token)) = answer at hstep
  cases hstep with
  | stored hentry => exact .refl s
  | beyond hindex => exact .refl s
  | scan hscan =>
    cases hanswer
    exact meets_of_scan_failed h hs hscan
  | next hscan =>
    cases hanswer
    exact meets_of_scan_failed h hs hscan
  | returnTo hentry => cases hanswer
  | stay hindex => cases hanswer
  | restart input => cases hanswer

/-! ## Runs with commands left out -/

/-- What comes of a command: the answer to it, and the history behind it. -/
structure Outcome where
  answer : Option (Except TokenError Token)
  history : List HistoryEntry
deriving DecidableEq

/-- Whether the command failed. -/
def Outcome.failed (o : Outcome) : Bool :=
  match o.answer with
  | some (.error _) => true
  | _ => false

theorem Outcome.failed_iff (o : Outcome) : o.failed = true ↔ ∃ e, o.answer = some (.error e) := by
  obtain ⟨answer, history⟩ := o
  cases answer with
  | none => simp [failed]
  | some answer => cases answer <;> simp [failed]

/-- What comes of the commands of a run, one after the other. -/
def trace : Lexicon engine options → Tokenizer → List TokenizerCommand → List Outcome
  | _, _, [] => []
  | r, s, c :: cs =>
    ⟨(c.run r s).1, (c.run r s).2.1.history⟩ :: trace (c.run r s).2.2 (c.run r s).2.1 cs

theorem trace_append (r : Lexicon engine options) (s : Tokenizer) (cs ds : List TokenizerCommand) :
    trace r s (cs ++ ds) = trace r s cs ++ trace (runAll r s cs).2 (runAll r s cs).1 ds := by
  induction cs generalizing r s with
  | nil => rfl
  | cons c cs ih => exact congrArg (List.cons _) (ih _ _)

/-- The elements of a list at the places chosen. -/
def keepWhere {α : Type} : (Nat → Bool) → List α → List α
  | _, [] => []
  | keep, a :: as =>
    if keep 0 then a :: keepWhere (fun i => keep (i + 1)) as
    else keepWhere (fun i => keep (i + 1)) as

/-- A step keeps the input, unless the command brings another one. -/
theorem input_step {c : TokenizerCommand} {answer : Option (Except TokenError Token)}
    (hstep : Step patterns s c answer t) :
    t.input = s.input ∨ ∃ text, c.input? = some text ∧ t.input = .ofText text := by
  cases hstep with
  | scan hscan => cases hscan <;> exact .inl rfl
  | next hscan => cases hscan <;> exact .inl rfl
  | restart text => exact .inr ⟨text, rfl, rfl⟩
  | _ => exact .inl rfl

/-- The inputs of a run: the one at hand, and those that its commands bring. -/
def inputsOf (s : Tokenizer) (cs : List TokenizerCommand) : List Subject :=
  s.input :: (cs.filterMap TokenizerCommand.input?).map .ofText

/-- The inputs behind the first command of a run are inputs of the run. -/
theorem inputsOf_step {c : TokenizerCommand} {answer : Option (Except TokenError Token)}
    (hstep : Step patterns s c answer t) (cs : List TokenizerCommand) :
    ∀ input ∈ inputsOf t cs, input ∈ inputsOf s (c :: cs) := by
  intro input hinput
  rw [inputsOf, List.filterMap_cons]
  rcases List.mem_cons.1 hinput with rfl | hinput
  · rcases input_step hstep with hsame | ⟨text, hc, hinput⟩
    · rw [hsame]
      exact List.mem_cons_self
    · simp [hc, hinput]
  · split
    · exact List.mem_cons_of_mem _ hinput
    · exact List.mem_cons_of_mem _ (List.mem_cons_of_mem _ hinput)

/-- If tokenizers meet, commands that fail for one can be left out for the other. -/
theorem Meets.trace_eq (hmeets : Meets patterns s t) (hs : Lossless patterns s)
    {cs : List TokenizerCommand}
    (h : ∀ input ∈ inputsOf s cs, Unambiguous patterns s.ignored input)
    {r r' : Lexicon engine options} (hr : r.patterns = patterns) (hr' : r'.patterns = patterns)
    {keep : Nat → Bool}
    (hkeep : ∀ i o, keep i = false → (trace r s cs)[i]? = some o → o.failed = true) :
    trace r' t (keepWhere keep cs) = keepWhere keep (trace r s cs) := by
  induction cs generalizing s t r r' keep with
  | nil => rfl
  | cons c cs ih =>
    have hstep : Step patterns s c (c.run r s).1 (c.run r s).2.1 := hr ▸ step_run r s c
    have hclear := h s.input List.mem_cons_self
    -- what the induction asks of the tokenizer behind the first command
    have hbehind : ∀ input ∈ inputsOf (c.run r s).2.1 cs,
        Unambiguous patterns (c.run r s).2.1.ignored input := by
      intro input hinput
      rw [ignored_step hstep]
      exact h input (inputsOf_step hstep cs input hinput)
    have hrest : ∀ i o, keep (i + 1) = false →
        (trace (c.run r s).2.2 (c.run r s).2.1 cs)[i]? = some o → o.failed = true := by
      intro i o hi ho
      exact hkeep (i + 1) o hi ho
    have hpatterns : (c.run r s).2.2.patterns = patterns := (patterns_run r s c).trans hr
    rw [trace, keepWhere, keepWhere]
    cases hfirst : keep 0 with
    | true =>
      obtain ⟨hanswer, hmeets'⟩ := hmeets.run hclear hr hr' c
      have hhistory : (c.run r' t).2.1.history = (c.run r s).2.1.history := by
        rw [hmeets'.eq_with]
      rw [if_pos rfl, if_pos rfl, trace, hanswer, hhistory]
      exact congrArg _ (ih hmeets' (hs.step hstep) hbehind hpatterns
        ((patterns_run r' t c).trans hr') hrest)
    | false =>
      -- the command fails, so the other tokenizer still meets the one behind it
      obtain ⟨e, herror⟩ := (Outcome.failed_iff _).1 (hkeep 0 _ hfirst rfl)
      simp only at herror
      rw [herror] at hstep
      have hmeets' := (meets_of_failed hclear hs hstep).exchange hmeets
      rw [if_neg Bool.false_ne_true, if_neg Bool.false_ne_true]
      exact ih hmeets' (hs.step hstep) hbehind hpatterns hr' hrest

/-! ## The first token -/

/-- Before the first token only ignored text has been gone past, and the first token is the one
that a search from the start finds. -/
structure FirstScanned (patterns : List (Pattern engine options)) (s : Tokenizer) : Prop where
  landing_eq : s.history = [] →
    landing patterns s.ignored s.input s.cursor = landing patterns s.ignored s.input 0
  first : ∀ entry, s.history[0]? = some entry → ∃ w : Winner,
    (firstMatch s.ignored entry.restriction s.input
        (landing patterns s.ignored s.input 0) 0 patterns).1 = .ok (some w) ∧
      s.ignored.contains w.rank = false ∧
      entry.token = w.tokenAt (landing patterns s.ignored s.input 0)

theorem FirstScanned.scan (h : FirstScanned patterns s)
    (hclear : Unambiguous patterns s.ignored s.input) {index : Nat}
    {answer : Except TokenError Token} (hscan : Scan patterns s index restriction answer t) :
    FirstScanned patterns t := by
  cases hscan with
  | failed hskips hwinner =>
    exact ⟨fun hnil => (hclear.landing_eq hskips).trans (h.landing_eq hnil), h.first⟩
  | nothing hskips hwinner =>
    exact ⟨fun hnil => (hclear.landing_eq hskips).trans (h.landing_eq hnil), h.first⟩
  | repeated hskips hwinner hignored hrepeats =>
    refine ⟨?_, h.first⟩
    intro hnil
    -- there is a token to repeat
    obtain ⟨entry, hlast, -⟩ := (repeatsLast_iff _).1 hrepeats
    rw [show s.history = [] from hnil] at hlast
    cases hlast
  | @found skips stop w hskips hwinner hignored hrepeats =>
    refine ⟨fun hnil => absurd hnil (by simp), ?_⟩
    intro entry hentry
    cases hhistory : s.history with
    | cons first rest =>
      simp only [hhistory, List.cons_append, List.getElem?_cons_zero] at hentry
      exact h.first entry (by rw [hhistory]; exact hentry)
    | nil =>
      -- the token just found is the first one, and the search for it ended where one from the
      -- start does
      simp only [hhistory, List.nil_append, List.getElem?_cons_zero] at hentry
      have hrests : Rests patterns s.ignored restriction s.input stop :=
        rests_of_winner hwinner hignored
      have hstop : stop = landing patterns s.ignored s.input 0 := by
        rw [← h.landing_eq hhistory, ← hclear.landing_eq hskips, hclear.landing_of_rests hrests]
      obtain rfl := Option.some.inj hentry
      rw [hstop] at hwinner ⊢
      exact ⟨w, hwinner, hignored, rfl⟩

theorem FirstScanned.step (h : FirstScanned patterns s)
    (hclear : Unambiguous patterns s.ignored s.input) {c : TokenizerCommand}
    {answer : Option (Except TokenError Token)} (hstep : Step patterns s c answer t) :
    FirstScanned patterns t := by
  cases hstep with
  | stored hentry => exact h
  | beyond hindex => exact h
  | scan hscan => exact h.scan hclear hscan
  | next hscan => exact h.scan hclear hscan
  | stay hindex => exact h
  | restart text =>
    refine ⟨fun _ => rfl, ?_⟩
    intro entry hentry
    cases hentry
  | @returnTo index entry hentry =>
    refine ⟨?_, ?_⟩
    · intro hnil
      cases index with
      | zero => rfl
      | succ index =>
        obtain ⟨hindex, -⟩ := List.getElem?_eq_some_iff.1 hentry
        have hlength := congrArg List.length hnil
        rw [List.length_take, List.length_nil] at hlength
        omega
    · intro first hfirst
      rw [List.getElem?_take] at hfirst
      split at hfirst
      · exact h.first first hfirst
      · cases hfirst

/-- Behind a run the input is unambiguous if all inputs of the run are, and the first token is the
one that a search from the start finds. -/
theorem FirstScanned.runAll (hs : FirstScanned patterns s) {cs : List TokenizerCommand}
    (h : ∀ input ∈ inputsOf s cs, Unambiguous patterns s.ignored input)
    {r : Lexicon engine options} (hr : r.patterns = patterns) :
    FirstScanned patterns (runAll r s cs).1 ∧
      Unambiguous patterns (Tokenizer.runAll r s cs).1.ignored (Tokenizer.runAll r s cs).1.input := by
  induction cs generalizing s r with
  | nil => exact ⟨hs, h s.input List.mem_cons_self⟩
  | cons c cs ih =>
    have hstep : Step patterns s c (c.run r s).1 (c.run r s).2.1 := hr ▸ step_run r s c
    apply ih (hs.step (h s.input List.mem_cons_self) hstep)
    · intro input hinput
      rw [ignored_step hstep]
      exact h input (inputsOf_step hstep cs input hinput)
    · exact (patterns_run r s c).trans hr

theorem repeatsLast_of_history_nil (h : s.history = []) (t : Token) : s.repeatsLast t = false := by
  rw [repeatsLast, h]
  rfl

/-- Going back to the start and asking for the first token once more gives the same token. -/
theorem FirstScanned.rescan (hs : FirstScanned patterns s)
    (h : Unambiguous patterns s.ignored s.input) {entry : HistoryEntry}
    (hentry : s.history[0]? = some entry) {r : Lexicon engine options}
    (hr : r.patterns = patterns) :
    ((s.returnTo 0).tokenAt r 0 entry.restriction).1 = .ok entry.token := by
  obtain ⟨w, hwinner, -, htoken⟩ := hs.first entry hentry
  subst hr
  have hreturn : s.returnTo 0 = { s with cursor := 0, history := [] } := by
    rw [returnTo_of_getElem? hentry]
    rfl
  -- with nothing in the history, the scan finds a winner and repeats no token
  have hfind : (find r.patterns s.ignored entry.restriction s.input 0).winner = .ok (some w) := by
    rw [winner_find, h.offset_find, hwinner]
  have hoffset := h.offset_find entry.restriction 0
  rw [hreturn, tokenAt]
  simp only [List.getElem?_nil, List.length_nil, if_true]
  rw [advance]
  simp only [hfind, hoffset]
  rw [repeatsLast_of_history_nil rfl, if_neg Bool.false_ne_true, htoken]
  rfl

/-- Where ignored text is unambiguous in all inputs of a run, commands that fail can be left out:
the others have the same answers and leave the same history behind them. And whatever has failed,
going back to the start and asking for the first token, under the restriction that it was scanned
under, gives that token once more. -/
theorem trace_keepWhere (r : Lexicon engine options) (ignored : List String) (input : Text)
    (cs : List TokenizerCommand)
    (h : ∀ text ∈ input :: cs.filterMap TokenizerCommand.input?,
      Unambiguous r.patterns (ignored.filterMap r.rank?) (.ofText text)) :
    (∀ keep : Nat → Bool,
      (∀ i o, keep i = false → (trace r (ofInput r ignored input) cs)[i]? = some o → o.failed = true) →
      trace r (ofInput r ignored input) (keepWhere keep cs) =
        keepWhere keep (trace r (ofInput r ignored input) cs)) ∧
    ∀ entry, (reached r ignored input cs).history[0]? = some entry →
      (((reached r ignored input cs).returnTo 0).tokenAt
        (runAll r (ofInput r ignored input) cs).2 0 entry.restriction).1 = .ok entry.token := by
  have hclear : ∀ subject ∈ inputsOf (ofInput r ignored input) cs,
      Unambiguous r.patterns (ofInput r ignored input).ignored subject := by
    intro subject hsubject
    rcases List.mem_cons.1 hsubject with rfl | hsubject
    · exact h input List.mem_cons_self
    · obtain ⟨text, htext, rfl⟩ := List.mem_map.1 hsubject
      exact h text (List.mem_cons_of_mem _ htext)
  constructor
  · intro keep hkeep
    exact (Meets.refl _).trace_eq (lossless_start rfl rfl) hclear rfl rfl hkeep
  · intro entry hentry
    have hstart : FirstScanned r.patterns (ofInput r ignored input) :=
      ⟨fun _ => rfl, fun entry hentry => by cases hentry⟩
    obtain ⟨hfirst, hinput⟩ := hstart.runAll hclear rfl
    exact hfirst.rescan hinput hentry (patterns_runAll r _ cs)

/-- A request for a `b` goes past the space before the `a` and fails, and a second request for an
`a` goes past the space behind it and fails. -/
theorem trace_keepWhere_spaces :
    let r : Lexicon .backtracking {} := .ofList [("b", "b"), ("ws", " "), ("a", "a")]
    let input : Text := [' ', 'a', ' ', 'b']
    let cs : List TokenizerCommand := [.tokenAt 0 ["b"], .next ["a"], .next ["a"], .next []]
    let keep : Nat → Bool := fun i => i % 2 == 1
    (∀ text ∈ input :: cs.filterMap TokenizerCommand.input?,
      Unambiguous r.patterns (["ws"].filterMap r.rank?) (.ofText text)) ∧
    (trace r (ofInput r ["ws"] input) cs).map Outcome.answer =
      [some (.error (.noMatchAmong 1 ["b"])), some (.ok ⟨2, "a", ⟨1, 2⟩⟩),
        some (.error (.noMatchAmong 3 ["a"])), some (.ok ⟨0, "b", ⟨3, 4⟩⟩)] ∧
    trace r (ofInput r ["ws"] input) (keepWhere keep cs) =
      keepWhere keep (trace r (ofInput r ["ws"] input) cs) := by
  intro r input cs keep
  have hclear : ∀ text ∈ input :: cs.filterMap TokenizerCommand.input?,
      Unambiguous r.patterns (["ws"].filterMap r.rank?) (.ofText text) := by decide +kernel
  have hfailed : ∀ i < 4, keep i = false →
      ((trace r (ofInput r ["ws"] input) cs)[i]?.all Outcome.failed) = true := by decide +kernel
  refine ⟨hclear, by decide +kernel, (trace_keepWhere r ["ws"] input cs hclear).1 keep ?_⟩
  intro i o hi ho
  have hlength : i < 4 := (List.getElem?_eq_some_iff.1 ho).1
  simpa [ho] using hfailed i hlength hi

end Tokenizer

end SheetLex
