import SheetLex.Proofs.Token.Comparison
import SheetLex.Regex.Engine

/-!
# Adding patterns behind

Patterns that are added to a lexicon take the last places in the order of precedence, and those that
were there keep theirs (`Lexicon.Keeps`). Where one of the earlier patterns wins or fails, that
settles the matter, and the added ones are not tried (`Extends.firstMatch_eq`). Only where nothing
matches can they make a difference. So a run over the greater lexicon shows what the run over the
smaller one shows, up to the first command of the latter for which no pattern matched
(`observe_addAll`).

The greater lexicon may know more of the names to be ignored. The ranks that are ignored then differ
among the added patterns only.
-/

set_option autoImplicit false

namespace SheetLex

variable {engine : RegexEngine} {options : MatchOptions}

/-! ## The greater lexicon -/

namespace Lexicon

variable {r r' : Lexicon engine options} {name : String} {rank : Nat}

theorem add_of_some (h : r.rank? name = some rank) (source : String) :
    r.add name source = (rank, r) := by
  rw [add, h]

theorem add_of_none (h : r.rank? name = none) (source : String) :
    r.add name source = (r.size, { r with patterns := r.patterns ++ [.ofSource name source] }) := by
  rw [add, h]

/-- The second lexicon has the patterns of the first one at their places, and those of them compiled
that were. -/
structure Keeps (r r' : Lexicon engine options) : Prop where
  isPrefix : r.patterns <+: r'.patterns
  attempted : ∀ {rank : Nat}, r.isAttempted rank = true → r'.isAttempted rank = true

theorem Keeps.refl (r : Lexicon engine options) : r.Keeps r := ⟨List.prefix_refl _, id⟩

theorem Keeps.trans {r'' : Lexicon engine options} (h : r.Keeps r') (h' : r'.Keeps r'') :
    r.Keeps r'' :=
  ⟨h.isPrefix.trans h'.isPrefix, fun hrank => h'.attempted (h.attempted hrank)⟩

theorem keeps_add (r : Lexicon engine options) (name source : String) :
    r.Keeps (r.add name source).2 := by
  cases hrank : r.rank? name with
  | some rank =>
    rw [add_of_some hrank]
    exact .refl r
  | none =>
    rw [add_of_none hrank]
    exact ⟨List.prefix_append _ _, id⟩

/-- Added patterns stand behind those that were there. -/
theorem keeps_addAll (r : Lexicon engine options) (patterns : List (String × String)) :
    r.Keeps (r.addAll patterns) := by
  induction patterns generalizing r with
  | nil => exact .refl r
  | cons p patterns ih => exact (r.keeps_add p.1 p.2).trans (ih _)

/-- A name of one of the earlier patterns keeps its rank, and no other name has one of the earlier
ranks. -/
theorem Keeps.rank?_eq_iff (h : r.Keeps r') (hrank : rank < r.patterns.length) (name : String) :
    r'.rank? name = some rank ↔ r.rank? name = some rank := by
  obtain ⟨more, hmore⟩ := h.isPrefix
  rw [rank?, ← hmore, List.findIdx?_append]
  change (r.rank? name).or _ = some rank ↔ _
  cases hearlier : r.rank? name with
  | some i => rw [Option.some_or]
  | none =>
    rw [Option.none_or]
    constructor
    · intro hlater
      obtain ⟨i, -, hi⟩ := Option.map_eq_some_iff.1 hlater
      omega
    · intro hnone
      cases hnone

end Lexicon

namespace Tokenizer

/-- The second list of patterns goes on behind the first one, and the same ranks of the first one
are ignored. -/
structure Extends (patterns : List (Pattern engine options)) (ignored : List Nat)
    (patterns' : List (Pattern engine options)) (ignored' : List Nat) : Prop where
  patterns_eq : ∃ more, patterns' = patterns ++ more
  contains_eq : ∀ rank < patterns.length, ignored'.contains rank = ignored.contains rank

theorem extends_addAll (r : Lexicon engine options) (more : List (String × String))
    (ignored : List String) :
    Extends r.patterns (ignored.filterMap r.rank?) (r.addAll more).patterns
      (ignored.filterMap (r.addAll more).rank?) := by
  have hkeeps := r.keeps_addAll more
  obtain ⟨behind, hbehind⟩ := hkeeps.isPrefix
  refine ⟨⟨behind, hbehind.symm⟩, ?_⟩
  intro rank hrank
  rw [Bool.eq_iff_iff, List.contains_iff_mem, List.contains_iff_mem, List.mem_filterMap,
    List.mem_filterMap]
  simp only [hkeeps.rank?_eq_iff hrank]

/-! ## Scans -/

section Scans

variable {patterns patterns' : List (Pattern engine options)} {ignored ignored' : List Nat}
variable {restriction : Restriction} {input : Subject} {pos stop : Nat} {s t : Tokenizer}

/-- Trying a pattern depends on the ignored ranks through its own rank only. -/
theorem trial_congr {rank : Nat} (h : ignored'.contains rank = ignored.contains rank)
    (restriction : Restriction) (input : Subject) (pos : Nat) (p : Pattern engine options) :
    trial ignored' restriction input pos rank p = trial ignored restriction input pos rank p := by
  rw [trial, trial, isEligible, isEligible, h]

/-- The patterns in front decide if one of them wins or fails. -/
theorem firstMatch_append (more : List (Pattern engine options)) {rank : Nat}
    (h : ∀ i < patterns.length, ignored'.contains (rank + i) = ignored.contains (rank + i))
    (hdecided : (firstMatch ignored restriction input pos rank patterns).1 ≠ .ok none) :
    (firstMatch ignored' restriction input pos rank (patterns ++ more)).1 =
      (firstMatch ignored restriction input pos rank patterns).1 := by
  induction patterns generalizing rank with
  | nil => exact absurd rfl hdecided
  | cons p patterns ih =>
    have hp : trial ignored' restriction input pos rank p =
        trial ignored restriction input pos rank p :=
      trial_congr (h 0 (Nat.succ_pos _)) restriction input pos p
    rw [firstMatch_cons] at hdecided
    rw [List.cons_append, firstMatch_cons, firstMatch_cons, hp]
    cases htrial : trial ignored restriction input pos rank p with
    | error e => rfl
    | ok found =>
      cases found with
      | some n => rfl
      | none =>
        -- the first pattern leaves the decision to those behind it
        rw [htrial] at hdecided
        apply ih _ hdecided
        intro i hi
        rw [Nat.add_assoc, Nat.add_comm 1 i]
        exact h (i + 1) (Nat.succ_lt_succ hi)

namespace Extends

theorem firstMatch_eq (h : Extends patterns ignored patterns' ignored')
    (hdecided : (firstMatch ignored restriction input pos 0 patterns).1 ≠ .ok none) :
    (firstMatch ignored' restriction input pos 0 patterns').1 =
      (firstMatch ignored restriction input pos 0 patterns).1 := by
  obtain ⟨⟨more, rfl⟩, hignored⟩ := h
  apply firstMatch_append more _ hdecided
  intro i hi
  rw [Nat.zero_add]
  exact hignored i hi

/-- A winner wins among the greater number of patterns too, and is ignored there if it is here. -/
theorem of_winner (h : Extends patterns ignored patterns' ignored') {w : Winner}
    (hwinner : (firstMatch ignored restriction input pos 0 patterns).1 = .ok (some w)) :
    (firstMatch ignored' restriction input pos 0 patterns').1 = .ok (some w) ∧
      ignored'.contains w.rank = ignored.contains w.rank := by
  have hdecided : (firstMatch ignored restriction input pos 0 patterns).1 ≠ .ok none := by
    rw [hwinner]
    intro hnone
    cases hnone
  obtain ⟨⟨p, hp, -⟩, -, -⟩ := matchesAt_of_firstMatch hwinner
  exact ⟨(h.firstMatch_eq hdecided).trans hwinner,
    h.contains_eq _ (List.getElem?_eq_some_iff.1 hp).1⟩

theorem of_failure (h : Extends patterns ignored patterns' ignored') {e : TokenError}
    (hfailure : (firstMatch ignored restriction input pos 0 patterns).1 = .error e) :
    (firstMatch ignored' restriction input pos 0 patterns').1 = .error e := by
  have hdecided : (firstMatch ignored restriction input pos 0 patterns).1 ≠ .ok none := by
    rw [hfailure]
    intro hnone
    cases hnone
  exact (h.firstMatch_eq hdecided).trans hfailure

/-- What a search goes past, it goes past among the greater number of patterns too. -/
theorem skips (h : Extends patterns ignored patterns' ignored') {skips : List Skip}
    (hskips : Skips patterns ignored restriction input pos skips stop) :
    Skips patterns' ignored' restriction input pos skips stop := by
  induction hskips with
  | stay pos => exact .stay pos
  | skip hwinner hignored hrest ih =>
    obtain ⟨hwinner', hsame⟩ := h.of_winner hwinner
    exact .skip hwinner' (hsame.trans hignored) ih

/-- A scan ends in the same way over the greater number of patterns, unless no pattern matched. -/
theorem scan (h : Extends patterns s.ignored patterns' ignored') {index : Nat}
    {answer : Except TokenError Token} (hscan : Scan patterns s index restriction answer t)
    (hmatched : ∀ e, answer = .error e → e.isMismatch = false) :
    Scan patterns' { s with ignored := ignored' } index restriction answer
      { t with ignored := ignored' } := by
  cases hscan with
  | failed hskips hfailure => exact .failed (h.skips hskips) (h.of_failure hfailure)
  | @nothing skips stop hskips hnone =>
    have hmismatch := hmatched _ rfl
    rw [nothingFound] at hmismatch
    split at hmismatch <;> cases hmismatch
  | repeated hskips hwinner hignored hrepeats =>
    obtain ⟨hwinner', hsame⟩ := h.of_winner hwinner
    exact .repeated (h.skips hskips) hwinner' (hsame.trans hignored) hrepeats
  | found hskips hwinner hignored hrepeats =>
    obtain ⟨hwinner', hsame⟩ := h.of_winner hwinner
    exact .found (h.skips hskips) hwinner' (hsame.trans hignored) hrepeats

/-- A command does the same over the greater number of patterns, unless no pattern matched. -/
theorem step (h : Extends patterns s.ignored patterns' ignored') {c : TokenizerCommand}
    {answer : Option (Except TokenError Token)} (hstep : Step patterns s c answer t)
    (hmatched : ∀ e, answer = some (.error e) → e.isMismatch = false) :
    Step patterns' { s with ignored := ignored' } c answer { t with ignored := ignored' } := by
  cases hstep with
  | stored hentry => exact .stored (s := { s with ignored := ignored' }) hentry
  | beyond hindex => exact .beyond (s := { s with ignored := ignored' }) hindex
  | scan hscan =>
    exact .scan (h.scan hscan fun e he => hmatched e (congrArg some he))
  | next hscan =>
    exact .next (h.scan hscan fun e he => hmatched e (congrArg some he))
  | returnTo hentry => exact .returnTo (s := { s with ignored := ignored' }) hentry
  | stay hindex => exact .stay (s := { s with ignored := ignored' }) hindex
  | restart input => exact .restart input

end Extends

end Scans

/-! ## Runs -/

/-- Whether no pattern has matched for a command. -/
def Outcome.mismatched (o : Outcome) : Bool :=
  match o.answer with
  | some (.error e) => e.isMismatch
  | _ => false

theorem Outcome.isMismatch_of_mismatched {o : Outcome} (h : o.mismatched = false) {e : TokenError}
    (he : o.answer = some (.error e)) : e.isMismatch = false := by
  rw [mismatched, he] at h
  exact h

/-- Over the greater lexicon a run shows the same up to the first command for which no pattern of
the smaller one has matched. -/
theorem Extends.observe {s : Tokenizer} {ignored' : List Nat} {r r' : Lexicon engine options}
    (h : Extends r.patterns s.ignored r'.patterns ignored') (cs : List TokenizerCommand) :
    ((observe r s cs).takeWhile fun o => !o.mismatched) <+:
      Tokenizer.observe r' { s with ignored := ignored' } cs := by
  induction cs generalizing r r' s with
  | nil => exact List.nil_prefix
  | cons c cs ih =>
    rw [Tokenizer.observe, List.takeWhile_cons]
    cases hmatched : (observeOne r s c).mismatched with
    | true => exact List.nil_prefix
    | false =>
      -- the command does the same over both, and the run goes on from related tokenizers
      have hstep := h.step (step_run r s c)
        fun e he => Outcome.isMismatch_of_mismatched hmatched he
      obtain ⟨hanswer, hbehind⟩ := hstep.run_eq
      have hhead : observeOne r' { s with ignored := ignored' } c = observeOne r s c := by
        rw [observeOne, hanswer, hbehind]
        rfl
      have hbeyond : Extends (c.run r s).2.2.patterns (c.run r s).2.1.ignored
          (c.run r' { s with ignored := ignored' }).2.2.patterns ignored' := by
        rw [patterns_run, patterns_run, ignored_step (step_run r s c)]
        exact h
      rw [Bool.not_false, if_pos rfl, Tokenizer.observe, hhead, hbehind]
      exact List.prefix_cons_inj _ |>.2 (ih hbeyond)

/-- Patterns added to a lexicon change no scan that has found something. From new tokenizers with
the same names to be ignored, among which may be names of added patterns, the same commands have
the same answers, histories and positions over both lexicons, up to the first command for which no
pattern of the smaller one has matched. -/
theorem observe_addAll (r : Lexicon engine options) (more : List (String × String))
    (ignored : List String) (input : Text) (cs : List TokenizerCommand) :
    ((observe r (ofInput r ignored input) cs).takeWhile fun o => !o.mismatched) <+:
      observe (r.addAll more) (ofInput (r.addAll more) ignored input) cs :=
  (extends_addAll r more ignored).observe cs

/-- What follows the word fails over the smaller lexicon, and is a number over the larger one. -/
theorem observe_addAll_number :
    let r : Lexicon .backtracking {} := .ofList [("word", "a+")]
    let larger := r.addAll [("number", "1+"), ("word", "1")]
    let cs : List TokenizerCommand := [.next [], .next []]
    let seen := (observe r (ofInput r [] ['a', '1']) cs).takeWhile fun o => !o.mismatched
    let seen' := observe larger (ofInput larger [] ['a', '1']) cs
    seen.length = 1 ∧ seen <+: seen' ∧
      (reached larger [] ['a', '1'] cs).tokens =
        [⟨0, "word", ⟨0, 1⟩⟩, ⟨1, "number", ⟨1, 2⟩⟩] := by
  intro r larger cs seen seen'
  have hseen := observe_addAll r [("number", "1+"), ("word", "1")] [] ['a', '1'] cs
  exact ⟨by decide +kernel, hseen, by decide +kernel⟩

end Tokenizer

end SheetLex
