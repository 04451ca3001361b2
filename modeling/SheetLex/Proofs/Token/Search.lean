import SheetLex.Token.Tokenizer

/-!
# The search for a token

At an offset every pattern is tried in order of precedence. `trial` is what comes of trying one:
patterns that are not eligible, and ignored ones that match no characters, count as not matching.
The winner is the first pattern whose trial gives a match (`firstMatch_eq_some_iff`).

A search goes past the matches of ignored patterns. `Skips` lists the matches gone past, and
`find_spec` says that a search stops at the first offset where no ignored pattern wins, with
whatever comes of trying the patterns there. That offset is all that a search leaves behind: it
rests there (`rests_find`), and a search from anywhere on the way ends there (`Skips.offset_find`).
-/

set_option autoImplicit false

namespace SheetLex

/-- A match that a search goes past. -/
structure Skip where
  /-- The rank of the ignored pattern. -/
  rank : Nat
  /-- Where the match lies in the input. -/
  range : ByteRange
deriving DecidableEq, Repr

/-- Whether the error says that a pattern is at fault. -/
def TokenError.isFault : TokenError → Bool
  | invalidPattern .. | matchGivenUp .. => true
  | _ => false

namespace Tokenizer

variable {engine : RegexEngine} {options : MatchOptions}
variable {patterns : List (Pattern engine options)} {ignored : List Nat} {restriction : Restriction}
variable {input : Subject} {pos stop rank : Nat}

/-! ## Trying patterns -/

/-- What comes of trying a pattern at an offset: the number of bytes that it takes there. -/
def trial (ignored : List Nat) (restriction : Restriction) (input : Subject) (pos rank : Nat)
    (p : Pattern engine options) : Except TokenError (Option Nat) :=
  if isEligible ignored restriction rank p.name then
    match p.extent? input pos with
    | .ok (some n) => if ignored.contains rank && n == 0 then .ok none else .ok (some n)
    | answer => answer
  else .ok none

theorem trial_eq_some_iff {p : Pattern engine options} {n : Nat} :
    trial ignored restriction input pos rank p = .ok (some n) ↔
      isEligible ignored restriction rank p.name = true ∧ p.extent? input pos = .ok (some n) ∧
        (ignored.contains rank = true → 0 < n) := by
  rw [trial]
  constructor
  · intro h
    split at h
    · rename_i heligible
      split at h
      · rename_i m hextent
        split at h
        · cases h
        · rename_i hskip
          cases h
          refine ⟨heligible, hextent, ?_⟩
          intro hignored
          rw [hignored, Bool.true_and, beq_iff_eq] at hskip
          exact Nat.pos_of_ne_zero hskip
      · rename_i hother
        exact absurd h (hother n)
    · cases h
  · rintro ⟨heligible, hextent, hpos⟩
    rw [if_pos heligible, hextent]
    simp only
    rw [if_neg]
    intro hskip
    obtain ⟨hignored, hzero⟩ := (Bool.and_eq_true _ _).mp hskip
    have hn := hpos hignored
    rw [beq_iff_eq.1 hzero] at hn
    exact Nat.lt_irrefl 0 hn

/-- The first pattern decides if its trial gives a match or fails. -/
theorem firstMatch_cons (p : Pattern engine options) (rest : List (Pattern engine options)) :
    (firstMatch ignored restriction input pos rank (p :: rest)).1 =
      match trial ignored restriction input pos rank p with
      | .error e => .error e
      | .ok none => (firstMatch ignored restriction input pos (rank + 1) rest).1
      | .ok (some n) => .ok (some ⟨rank, p.name, n⟩) := by
  rw [firstMatch, trial]
  split
  · cases p.extent? input pos with
    | error e => rfl
    | ok found =>
      cases found with
      | none => rfl
      | some n =>
        simp only
        split <;> rfl
  · rfl

/-- What the trial of a pattern says of the winner, if that pattern decides. -/
def decision (rank : Nat) (p : Pattern engine options) (answer : Except TokenError (Option Nat)) :
    Except TokenError (Option Winner) :=
  answer.map (Option.map (Winner.mk rank p.name))

theorem decision_eq_some_iff {p : Pattern engine options} {answer : Except TokenError (Option Nat)}
    {w : Winner} :
    decision rank p answer = .ok (some w) ↔
      w.rank = rank ∧ w.name = p.name ∧ answer = .ok (some w.length) := by
  obtain ⟨wrank, wname, wlength⟩ := w
  rcases answer with e | (_ | n)
  · simp [decision, Except.map]
  · simp [decision, Except.map]
  · simp [decision, Except.map, eq_comm]

theorem decision_eq_error_iff {p : Pattern engine options} {answer : Except TokenError (Option Nat)}
    {e : TokenError} : decision rank p answer = .error e ↔ answer = .error e := by
  cases answer with
  | error e' => simp [decision, Except.map]
  | ok found => simp [decision, Except.map]

theorem firstMatch_cons_of_trial_ne {p : Pattern engine options}
    {rest : List (Pattern engine options)}
    (h : trial ignored restriction input pos rank p ≠ .ok none) :
    (firstMatch ignored restriction input pos rank (p :: rest)).1 =
      decision rank p (trial ignored restriction input pos rank p) := by
  rw [firstMatch_cons]
  cases htrial : trial ignored restriction input pos rank p with
  | error e => rfl
  | ok found =>
    cases found with
    | none => exact absurd htrial h
    | some n => rfl

/-- No pattern decides if every trial comes to nothing. -/
theorem firstMatch_eq_none_iff :
    (firstMatch ignored restriction input pos rank patterns).1 = .ok none ↔
      ∀ i p, patterns[i]? = some p →
        trial ignored restriction input pos (rank + i) p = .ok none := by
  induction patterns generalizing rank with
  | nil => simp [firstMatch]
  | cons p rest ih =>
    have hshift (i : Nat) : rank + (i + 1) = rank + 1 + i := by omega
    constructor
    · intro h
      by_cases htrial : trial ignored restriction input pos rank p = .ok none
      · rw [firstMatch_cons, htrial] at h
        intro i q hq
        cases i with
        | zero =>
          obtain rfl : p = q := Option.some.inj hq
          exact htrial
        | succ i =>
          rw [hshift]
          exact ih.1 h i q hq
      · rw [firstMatch_cons_of_trial_ne htrial] at h
        rcases hanswer : trial ignored restriction input pos rank p with e | (_ | n)
        · rw [hanswer] at h
          cases h
        · exact absurd hanswer htrial
        · rw [hanswer] at h
          cases h
    · intro h
      have hfirst : trial ignored restriction input pos rank p = .ok none := h 0 p rfl
      rw [firstMatch_cons, hfirst]
      apply ih.2
      intro i q hq
      rw [← hshift]
      exact h (i + 1) q hq

/-- Behind a pattern whose trial gives a match or fails, no pattern is the first to do so. -/
theorem eq_zero_of_trial_ne {p : Pattern engine options} {rest : List (Pattern engine options)}
    {i : Nat}
    (hfirst : trial ignored restriction input pos rank p ≠ .ok none)
    (hbefore : ∀ j q, j < i → (p :: rest)[j]? = some q →
      trial ignored restriction input pos (rank + j) q = .ok none) : i = 0 := by
  rcases Nat.eq_zero_or_pos i with hi | hi
  · exact hi
  · exact absurd (hbefore 0 p hi rfl) hfirst

/-- The first pattern whose trial gives a match or fails decides. -/
theorem firstMatch_eq_iff {answer : Except TokenError (Option Winner)} (hne : answer ≠ .ok none) :
    (firstMatch ignored restriction input pos rank patterns).1 = answer ↔
      ∃ i p, patterns[i]? = some p ∧
        decision (rank + i) p (trial ignored restriction input pos (rank + i) p) = answer ∧
        ∀ j q, j < i → patterns[j]? = some q →
          trial ignored restriction input pos (rank + j) q = .ok none := by
  induction patterns generalizing rank with
  | nil =>
    constructor
    · intro h
      exact absurd h.symm hne
    · rintro ⟨i, p, hp, -⟩
      cases hp
  | cons p rest ih =>
    have hshift (i : Nat) : rank + (i + 1) = rank + 1 + i := by omega
    by_cases htrial : trial ignored restriction input pos rank p = .ok none
    · -- the first pattern does not decide, so places shift by one
      rw [firstMatch_cons, htrial]
      simp only
      rw [ih]
      constructor
      · rintro ⟨i, q, hq, hanswer, hbefore⟩
        refine ⟨i + 1, q, hq, ?_, ?_⟩
        · rw [hshift]
          exact hanswer
        · intro j q' hj hq'
          cases j with
          | zero =>
            obtain rfl : p = q' := Option.some.inj hq'
            exact htrial
          | succ j =>
            rw [hshift]
            exact hbefore j q' (Nat.lt_of_succ_lt_succ hj) hq'
      · rintro ⟨i, q, hq, hanswer, hbefore⟩
        cases i with
        | zero =>
          obtain rfl : p = q := Option.some.inj hq
          rw [Nat.add_zero, htrial] at hanswer
          exact absurd hanswer.symm hne
        | succ i =>
          rw [hshift] at hanswer
          refine ⟨i, q, hq, hanswer, ?_⟩
          intro j q' hj hq'
          rw [← hshift]
          exact hbefore (j + 1) q' (Nat.succ_lt_succ hj) hq'
    · rw [firstMatch_cons_of_trial_ne htrial]
      constructor
      · intro h
        exact ⟨0, p, rfl, h, fun j q hj => absurd hj (Nat.not_lt_zero j)⟩
      · rintro ⟨i, q, hq, hanswer, hbefore⟩
        obtain rfl := eq_zero_of_trial_ne htrial hbefore
        obtain rfl : p = q := Option.some.inj hq
        exact hanswer

/-- The winner is the first pattern whose trial gives a match. -/
theorem firstMatch_eq_some_iff {w : Winner} :
    (firstMatch ignored restriction input pos rank patterns).1 = .ok (some w) ↔
      ∃ i p, patterns[i]? = some p ∧ w.rank = rank + i ∧ w.name = p.name ∧
        trial ignored restriction input pos (rank + i) p = .ok (some w.length) ∧
        ∀ j q, j < i → patterns[j]? = some q →
          trial ignored restriction input pos (rank + j) q = .ok none := by
  rw [firstMatch_eq_iff (by simp)]
  simp only [decision_eq_some_iff, and_assoc]

/-- A search fails where the first pattern that decides fails. -/
theorem firstMatch_eq_error_iff {e : TokenError} :
    (firstMatch ignored restriction input pos rank patterns).1 = .error e ↔
      ∃ i p, patterns[i]? = some p ∧
        trial ignored restriction input pos (rank + i) p = .error e ∧
        ∀ j q, j < i → patterns[j]? = some q →
          trial ignored restriction input pos (rank + j) q = .ok none := by
  rw [firstMatch_eq_iff (by simp)]
  simp only [decision_eq_error_iff]

/-- Patterns are tried alike if the same ones are ignored and the restrictions let the same names
through. -/
theorem firstMatch_of_allows {ignored' : List Nat} {restriction' : Restriction}
    (hignored : ∀ rank, ignored'.contains rank = ignored.contains rank)
    (hallows : ∀ name, restriction'.allows name = restriction.allows name) :
    firstMatch ignored' restriction' input pos rank patterns =
      firstMatch ignored restriction input pos rank patterns := by
  induction patterns generalizing rank with
  | nil => rfl
  | cons p rest ih =>
    have heligible : isEligible ignored' restriction' rank p.name =
        isEligible ignored restriction rank p.name := by
      rw [isEligible, isEligible, hignored, hallows]
    rw [firstMatch, firstMatch, heligible, hignored, ih]

/-- If trying a pattern fails, the pattern is at fault. -/
theorem isFault_of_trial {p : Pattern engine options} {e : TokenError}
    (h : trial ignored restriction input pos rank p = .error e) : e.isFault = true := by
  rw [trial] at h
  split at h
  · split at h
    · split at h <;> cases h
    · rw [Pattern.extent?] at h
      split at h
      · cases h
      · split at h
        · cases h
          rfl
        · split at h
          · cases h
            rfl
          · cases h
  · cases h

/-- If the patterns give no answer, one of them is at fault. -/
theorem isFault_of_firstMatch {e : TokenError}
    (h : (firstMatch ignored restriction input pos rank patterns).1 = .error e) :
    e.isFault = true := by
  obtain ⟨i, p, -, htrial, -⟩ := firstMatch_eq_error_iff.1 h
  exact isFault_of_trial htrial

/-! ## Matches -/

/-- The pattern with the rank given matches at the start of a range, and takes the range. -/
def MatchesAt (patterns : List (Pattern engine options)) (input : Subject) (rank : Nat)
    (range : ByteRange) : Prop :=
  ∃ p, patterns[rank]? = some p ∧ p.extent? input range.start = .ok (some range.length)

/-- What a pattern takes lies within the input. -/
theorem MatchesAt.stop_le {range : ByteRange} (h : MatchesAt patterns input rank range)
    (horder : range.start ≤ range.stop) : range.stop ≤ input.byteLength := by
  obtain ⟨p, -, hextent⟩ := h
  have hle := Pattern.add_le_byteLength_of_extent? hextent
  rw [ByteRange.length] at hle
  omega

/-- A winner is a pattern that was tried and that matches. -/
theorem matchesAt_of_firstMatch {w : Winner}
    (h : (firstMatch ignored restriction input pos 0 patterns).1 = .ok (some w)) :
    MatchesAt patterns input w.rank ⟨pos, pos + w.length⟩ ∧
      (patterns[w.rank]?).map Pattern.name = some w.name ∧
      isEligible ignored restriction w.rank w.name = true := by
  obtain ⟨i, p, hp, hrank, hname, htrial, -⟩ := firstMatch_eq_some_iff.1 h
  obtain ⟨heligible, hextent, -⟩ := trial_eq_some_iff.1 htrial
  rw [Nat.zero_add] at hrank heligible
  subst hrank
  refine ⟨⟨p, hp, ?_⟩, ?_, ?_⟩
  · rw [hextent, ByteRange.length, Nat.add_sub_cancel_left]
  · rw [hp, hname]
    rfl
  · rw [hname]
    exact heligible

/-- A winner that is not ignored has one of the names asked for. -/
theorem name_mem_of_firstMatch {w : Winner}
    (h : (firstMatch ignored restriction input pos 0 patterns).1 = .ok (some w))
    (hkept : ignored.contains w.rank = false) (hne : restriction ≠ []) : w.name ∈ restriction := by
  have heligible := (matchesAt_of_firstMatch h).2.2
  rw [isEligible, hkept, Bool.false_or, Restriction.allows, Bool.or_eq_true] at heligible
  rcases heligible with hempty | hmem
  · exact absurd (List.isEmpty_iff.1 hempty) hne
  · exact List.contains_iff_mem.1 hmem

/-! ## Searches -/

/-- From one offset to another, a search goes past the matches listed: ignored patterns win
there. -/
inductive Skips (patterns : List (Pattern engine options)) (ignored : List Nat)
    (restriction : Restriction) (input : Subject) : Nat → List Skip → Nat → Prop where
  | stay (pos : Nat) : Skips patterns ignored restriction input pos [] pos
  | skip {pos stop : Nat} {w : Winner} {skips : List Skip} :
      (firstMatch ignored restriction input pos 0 patterns).1 = .ok (some w) →
      ignored.contains w.rank = true →
      Skips patterns ignored restriction input (pos + w.length) skips stop →
      Skips patterns ignored restriction input pos (⟨w.rank, ⟨pos, pos + w.length⟩⟩ :: skips) stop

/-- A search goes past the matches of ignored patterns, up to an offset where none wins. -/
theorem find_spec (patterns : List (Pattern engine options)) (ignored : List Nat)
    (restriction : Restriction) (input : Subject) (pos : Nat) :
    ∃ skips,
      Skips patterns ignored restriction input pos skips
        (find patterns ignored restriction input pos).offset ∧
      (firstMatch ignored restriction input
          (find patterns ignored restriction input pos).offset 0 patterns).1 =
        (find patterns ignored restriction input pos).winner ∧
      ∀ w, (find patterns ignored restriction input pos).winner = .ok (some w) →
        ignored.contains w.rank = false := by
  -- along the recursion of the search, which follows the matches gone past
  fun_induction find patterns ignored restriction input pos with
  | case1 pos w tried hfirst hignored rest ih =>
    obtain ⟨skips, hskips, hwinner, hkept⟩ := ih
    refine ⟨⟨w.rank, ⟨pos, pos + w.length⟩⟩ :: skips, ?_, hwinner, hkept⟩
    exact .skip (congrArg Prod.fst hfirst) hignored hskips
  | case2 pos w tried hfirst hignored =>
    refine ⟨[], .stay pos, congrArg Prod.fst hfirst, ?_⟩
    intro w' hw
    cases hw
    exact Bool.eq_false_iff.2 hignored
  | case3 pos outcome tried hother hfirst =>
    refine ⟨[], .stay pos, congrArg Prod.fst hfirst, ?_⟩
    intro w hw
    exact absurd hw (hother w)

/-- The winner that a search finds is the one at the offset where it ends. -/
theorem winner_find (patterns : List (Pattern engine options)) (ignored : List Nat)
    (restriction : Restriction) (input : Subject) (pos : Nat) :
    (find patterns ignored restriction input pos).winner =
      (firstMatch ignored restriction input
        (find patterns ignored restriction input pos).offset 0 patterns).1 := by
  obtain ⟨skips, -, hwinner, -⟩ := find_spec patterns ignored restriction input pos
  exact hwinner.symm

/-- No ignored pattern wins at the offset, so a search goes no further than that. -/
def Rests (patterns : List (Pattern engine options)) (ignored : List Nat)
    (restriction : Restriction) (input : Subject) (pos : Nat) : Prop :=
  ∀ w, (firstMatch ignored restriction input pos 0 patterns).1 = .ok (some w) →
    ignored.contains w.rank = false

theorem rests_of_winner {w : Winner}
    (hwinner : (firstMatch ignored restriction input pos 0 patterns).1 = .ok (some w))
    (hkept : ignored.contains w.rank = false) : Rests patterns ignored restriction input pos := by
  intro w' hw'
  rw [hwinner] at hw'
  obtain rfl := Option.some.inj (Except.ok.inj hw')
  exact hkept

theorem rests_of_no_winner
    (h : ∀ w, (firstMatch ignored restriction input pos 0 patterns).1 ≠ .ok (some w)) :
    Rests patterns ignored restriction input pos := by
  intro w hw
  exact absurd hw (h w)

/-- A search ends where it rests. -/
theorem rests_find (patterns : List (Pattern engine options)) (ignored : List Nat)
    (restriction : Restriction) (input : Subject) (pos : Nat) :
    Rests patterns ignored restriction input
      (find patterns ignored restriction input pos).offset := by
  obtain ⟨skips, -, hwinner, hkept⟩ := find_spec patterns ignored restriction input pos
  intro w hw
  exact hkept w (hwinner.symm.trans hw)

/-- A search that rests at once stays where it is. -/
theorem offset_find_of_rests (h : Rests patterns ignored restriction input pos) :
    (find patterns ignored restriction input pos).offset = pos := by
  rw [find]
  split
  · rename_i w tried hfirst
    have hkept := h w (congrArg Prod.fst hfirst)
    rw [dif_neg (by rw [hkept]; exact Bool.false_ne_true)]
  · rfl

/-- A search from where an ignored pattern wins goes on behind its match. -/
theorem offset_find_of_ignored {w : Winner}
    (hwinner : (firstMatch ignored restriction input pos 0 patterns).1 = .ok (some w))
    (hignored : ignored.contains w.rank = true) :
    (find patterns ignored restriction input pos).offset =
      (find patterns ignored restriction input (pos + w.length)).offset := by
  conv =>
    lhs
    rw [find]
  split
  · rename_i w' tried hfirst
    rw [hfirst] at hwinner
    obtain rfl : w' = w := Option.some.inj (Except.ok.inj hwinner)
    rw [dif_pos hignored]
  · rename_i outcome tried hother hfirst
    rw [hfirst] at hwinner
    exact absurd hwinner (hother w)

/-- A search from the end of matches gone past ends where the search that went past them does. -/
theorem Skips.offset_find {skips : List Skip}
    (h : Skips patterns ignored restriction input pos skips stop) :
    (find patterns ignored restriction input pos).offset =
      (find patterns ignored restriction input stop).offset := by
  induction h with
  | stay pos => rfl
  | skip hwinner hignored hskips ih => rw [offset_find_of_ignored hwinner hignored, ih]

/-- A search that can rest behind the matches it goes past ends there, with what wins there. -/
theorem Skips.find_of_rests {skips : List Skip}
    (h : Skips patterns ignored restriction input pos skips stop)
    (hrests : Rests patterns ignored restriction input stop) :
    (find patterns ignored restriction input pos).offset = stop ∧
      (find patterns ignored restriction input pos).winner =
        (firstMatch ignored restriction input stop 0 patterns).1 := by
  have hoffset : (find patterns ignored restriction input pos).offset = stop :=
    h.offset_find.trans (offset_find_of_rests hrests)
  refine ⟨hoffset, ?_⟩
  rw [winner_find, hoffset]

end Tokenizer

end SheetLex
