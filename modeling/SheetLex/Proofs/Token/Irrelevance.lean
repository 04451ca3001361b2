import SheetLex.Proofs.Token.Sharing
import SheetLex.Proofs.Token.Comparison
import Mathlib.Data.Set.Insert
import SheetLex.Regex.Engine

/-!
# Patterns that no request asks for

A scan that is limited to some names tries the patterns with these names and the ignored ones, and
no others. Other patterns may be anything: they may match nothing or everything, may run on without
end or may not even be valid. Two lexicons that differ in such patterns only (`AgreeOutside`) are
searched alike (`find_of_agreeOutside`), and what is never asked for is never compiled
(`leavesAlone_runAll`).
-/

set_option autoImplicit false

namespace SheetLex

variable {engine : RegexEngine} {options : MatchOptions} {P : Set String}

/-- The lexicons list patterns under the same names in the same order, and those whose names do not
belong to `P` have the same sources. -/
def Lexicon.AgreeOutside (P : Set String) (r r' : Lexicon engine options) : Prop :=
  List.Forall₂ (fun p q => p.name = q.name ∧ (p.name ∉ P → p.source = q.source))
    r.patterns r'.patterns

/-- The command asks for tokens under names only that do not belong to `P`, and under some. -/
def TokenizerCommand.Avoids (P : Set String) : TokenizerCommand → Prop
  | .tokenAt _ restriction | .next restriction =>
    restriction ≠ [] ∧ ∀ name ∈ restriction, name ∉ P
  | _ => True

namespace Lexicon

variable {r r' : Lexicon engine options}

/-- Of the patterns of the first lexicon whose names belong to `P`, the second one has the same
compiled. -/
def LeavesAlone (P : Set String) (r r' : Lexicon engine options) : Prop :=
  ∀ rank p, r.patterns[rank]? = some p → p.name ∈ P → r'.isAttempted rank = r.isAttempted rank

theorem LeavesAlone.refl (r : Lexicon engine options) : r.LeavesAlone P r := fun _ _ _ _ => rfl

/-- The ranks are not those of patterns whose names belong to `P`. -/
def Excludes (P : Set String) (r : Lexicon engine options) (ranks : List Nat) : Prop :=
  ∀ rank p, r.patterns[rank]? = some p → ranks.contains rank = true → p.name ∉ P

/-- Names are looked up alike. -/
theorem AgreeOutside.rank?_eq (h : r.AgreeOutside P r') (name : String) :
    r'.rank? name = r.rank? name := by
  have hnames : r.patterns.map Pattern.name = r'.patterns.map Pattern.name := by
    rw [← List.forall₂_eq_eq_eq, List.forall₂_map_left_iff, List.forall₂_map_right_iff]
    exact h.imp fun _ _ hpq => hpq.1
  have hrank (lexicon : Lexicon engine options) : lexicon.rank? name =
      (lexicon.patterns.map Pattern.name).findIdx? fun other => other == name := by
    rw [rank?, List.findIdx?_map]
    rfl
  rw [hrank, hrank, hnames]

theorem name_of_rank? {name : String} {rank : Nat} {p : Pattern engine options}
    (hrank : r.rank? name = some rank) (hp : r.patterns[rank]? = some p) : p.name = name := by
  rw [rank?, List.findIdx?_eq_some_iff_getElem] at hrank
  obtain ⟨hlt, hname, -⟩ := hrank
  obtain ⟨-, rfl⟩ := List.getElem?_eq_some_iff.1 hp
  exact beq_iff_eq.1 hname

theorem excludes_ignored {ignored : List String} (h : ∀ name ∈ ignored, name ∉ P) :
    r.Excludes P (ignored.filterMap r.rank?) := by
  intro rank p hp hrank
  obtain ⟨name, hname, hfound⟩ := List.mem_filterMap.1 (List.contains_iff_mem.1 hrank)
  rw [name_of_rank? hfound hp]
  exact h name hname

end Lexicon

open Lexicon

namespace Tokenizer

variable {r r' : Lexicon engine options} {s : Tokenizer} {restriction : Restriction}

/-! ## Searches -/

/-- A pattern whose name belongs to `P` is not eligible. -/
theorem not_mem_of_isEligible (hs : r.Excludes P s.ignored)
    (hrestriction : restriction ≠ [] ∧ ∀ name ∈ restriction, name ∉ P) {rank : Nat}
    {p : Pattern engine options} (hp : r.patterns[rank]? = some p)
    (h : isEligible s.ignored restriction rank p.name = true) : p.name ∉ P := by
  rw [isEligible, Restriction.allows, Bool.or_eq_true, Bool.or_eq_true] at h
  rcases h with hrank | hempty | hname
  · exact hs rank p hp hrank
  · exact absurd (List.isEmpty_iff.1 hempty) hrestriction.1
  · exact hrestriction.2 p.name (List.contains_iff_mem.1 hname)

/-- Patterns are tried alike if the eligible ones agree. -/
theorem firstMatch_congr {patterns patterns' : List (Pattern engine options)} {ignored : List Nat}
    {rank : Nat} (input : Subject) (pos : Nat)
    (h : List.Forall₂ (fun p q => p.name = q.name ∧ (p.name ∉ P → p.source = q.source))
      patterns patterns')
    (heligible : ∀ i p, patterns[i]? = some p →
      isEligible ignored restriction (rank + i) p.name = true → p.name ∉ P) :
    firstMatch ignored restriction input pos rank patterns' =
      firstMatch ignored restriction input pos rank patterns := by
  induction h generalizing rank with
  | nil => rfl
  | @cons p q rest rest' hpq hrest ih =>
    obtain ⟨hname, hsource⟩ := hpq
    have hbehind : firstMatch ignored restriction input pos (rank + 1) rest' =
        firstMatch ignored restriction input pos (rank + 1) rest := by
      apply ih
      intro i p' hp' h
      rw [Nat.add_assoc, Nat.add_comm 1 i] at h
      exact heligible (i + 1) p' hp' h
    rw [firstMatch, firstMatch, hbehind, ← hname]
    cases htried : isEligible ignored restriction rank p.name with
    | false => rw [if_neg Bool.false_ne_true, if_neg Bool.false_ne_true]
    | true =>
      -- the pattern is tried, so it is the same one
      obtain rfl : p = q := by
        rw [p.eq_ofSource, q.eq_ofSource, hname, hsource (heligible 0 p rfl htried)]
      rfl

theorem find_of_agreeOutside (h : r.AgreeOutside P r') (hs : r.Excludes P s.ignored)
    (hrestriction : restriction ≠ [] ∧ ∀ name ∈ restriction, name ∉ P) (pos : Nat) :
    find r'.patterns s.ignored restriction s.input pos =
      find r.patterns s.ignored restriction s.input pos := by
  apply find_congr fun _ => rfl
  intro pos
  apply firstMatch_congr s.input pos h
  intro i p hp heligible
  rw [Nat.zero_add] at heligible
  exact not_mem_of_isEligible hs hrestriction hp heligible

/-! ## Commands -/

/-- What an avoiding request does is the same over both lexicons. -/
theorem tokenAt_of_agreeOutside (h : r.AgreeOutside P r') (hs : r.Excludes P s.ignored)
    (hrestriction : restriction ≠ [] ∧ ∀ name ∈ restriction, name ∉ P) (index : Nat) :
    (s.tokenAt r' index restriction).1 = (s.tokenAt r index restriction).1 ∧
      (s.tokenAt r' index restriction).2.1 = (s.tokenAt r index restriction).2.1 := by
  rcases Nat.lt_trichotomy index s.history.length with hindex | rfl | hindex
  · have hentry := List.getElem?_eq_getElem hindex
    rw [tokenAt_of_getElem? r hentry, tokenAt_of_getElem? r' hentry]
    exact ⟨rfl, rfl⟩
  · rw [tokenAt_length, tokenAt_length, advance, advance, find_of_agreeOutside h hs hrestriction]
    simp only
    split
    · exact ⟨rfl, rfl⟩
    · exact ⟨rfl, rfl⟩
    · split <;> exact ⟨rfl, rfl⟩
  · rw [tokenAt_of_length_lt r hindex, tokenAt_of_length_lt r' hindex]
    exact ⟨rfl, rfl⟩

theorem run_of_agreeOutside (h : r.AgreeOutside P r') (hs : r.Excludes P s.ignored)
    {c : TokenizerCommand} (hc : c.Avoids P) :
    (c.run r' s).1 = (c.run r s).1 ∧ (c.run r' s).2.1 = (c.run r s).2.1 := by
  cases c with
  | tokenAt index restriction =>
    obtain ⟨hanswer, hbehind⟩ := tokenAt_of_agreeOutside h hs hc index
    exact ⟨congrArg some hanswer, hbehind⟩
  | next restriction =>
    obtain ⟨hanswer, hbehind⟩ := tokenAt_of_agreeOutside h hs hc s.history.length
    exact ⟨congrArg some hanswer, hbehind⟩
  | returnTo index => exact ⟨rfl, rfl⟩
  | restart input => exact ⟨rfl, rfl⟩

/-- An avoiding request compiles no pattern whose name belongs to `P`. -/
theorem leavesAlone_tokenAt (hs : r.Excludes P s.ignored)
    (hrestriction : restriction ≠ [] ∧ ∀ name ∈ restriction, name ∉ P) (index : Nat) :
    r.LeavesAlone P (s.tokenAt r index restriction).2.2 := by
  intro rank p hp hname
  rcases Nat.lt_trichotomy index s.history.length with hindex | rfl | hindex
  · rw [tokenAt_of_getElem? r (List.getElem?_eq_getElem hindex)]
  · rw [tokenAt_length, lexicon_advance, Bool.eq_iff_iff, isAttempted_markAttempted,
      or_iff_left_iff_imp]
    intro htried
    -- what was tried was eligible
    obtain ⟨q, hq, heligible⟩ := exists_of_mem_tried htried
    rw [hp] at hq
    obtain rfl := Option.some.inj hq
    exact absurd hname (not_mem_of_isEligible hs hrestriction hp heligible)
  · rw [tokenAt_of_length_lt r hindex]

theorem leavesAlone_run (hs : r.Excludes P s.ignored) {c : TokenizerCommand} (hc : c.Avoids P) :
    r.LeavesAlone P (c.run r s).2.2 := by
  cases c with
  | tokenAt index restriction => exact leavesAlone_tokenAt hs hc index
  | next restriction => exact leavesAlone_tokenAt hs hc s.history.length
  | returnTo index => exact .refl r
  | restart input => exact .refl r

/-! ## Runs -/

theorem excludes_run (hs : r.Excludes P s.ignored) (c : TokenizerCommand) :
    (c.run r s).2.2.Excludes P (c.run r s).2.1.ignored := by
  rw [Excludes, patterns_run, ignored_step (step_run r s c)]
  exact hs

/-- A run of avoiding commands shows the same over both lexicons. -/
theorem observe_of_excludes (h : r.AgreeOutside P r') (hs : r.Excludes P s.ignored)
    {cs : List TokenizerCommand} (hcs : ∀ c ∈ cs, c.Avoids P) :
    observe r' s cs = observe r s cs := by
  induction cs generalizing r r' s with
  | nil => rfl
  | cons c cs ih =>
    obtain ⟨hanswer, hbehind⟩ := run_of_agreeOutside h hs (hcs c List.mem_cons_self)
    have hlater : (c.run r s).2.2.AgreeOutside P (c.run r' s).2.2 := by
      rw [AgreeOutside, patterns_run, patterns_run]
      exact h
    rw [observe, observe, observeOne, observeOne, hanswer, hbehind]
    exact congrArg _ (ih hlater (excludes_run hs c) fun d hd => hcs d (List.mem_cons_of_mem c hd))

/-- A run of avoiding commands compiles no pattern whose name belongs to `P`. -/
theorem leavesAlone_runAll (hs : r.Excludes P s.ignored) {cs : List TokenizerCommand}
    (hcs : ∀ c ∈ cs, c.Avoids P) : r.LeavesAlone P (runAll r s cs).2 := by
  induction cs generalizing r s with
  | nil => exact .refl r
  | cons c cs ih =>
    intro rank p hp hname
    have hfirst := leavesAlone_run hs (hcs c List.mem_cons_self) rank p hp hname
    rw [← patterns_run r s c] at hp
    have hlater := ih (excludes_run hs c) (fun d hd => hcs d (List.mem_cons_of_mem c hd))
    exact (hlater rank p hp hname).trans hfirst

/-- Patterns that are not asked for make no difference. Two lexicons may differ in the sources of
the patterns whose names belong to `P`; nothing of that shows in a run that starts anew, ignores no
such name, and limits every request to other names. No such pattern is compiled in the course of
it. -/
theorem observe_of_agreeOutside (h : r.AgreeOutside P r') {ignored : List String}
    (hignored : ∀ name ∈ ignored, name ∉ P) (input : Text) {cs : List TokenizerCommand}
    (hcs : ∀ c ∈ cs, c.Avoids P) :
    observe r' (ofInput r' ignored input) cs = observe r (ofInput r ignored input) cs ∧
      r.LeavesAlone P (runAll r (ofInput r ignored input) cs).2 ∧
      r'.LeavesAlone P (runAll r' (ofInput r' ignored input) cs).2 := by
  have hstart : ofInput r' ignored input = ofInput r ignored input := by
    rw [ofInput, ofInput, funext h.rank?_eq]
  refine ⟨?_, leavesAlone_runAll (excludes_ignored hignored) hcs,
    leavesAlone_runAll (excludes_ignored hignored) hcs⟩
  rw [hstart]
  exact observe_of_excludes h (excludes_ignored hignored) hcs

/-- The first pattern is not valid in one lexicon and matches everything in the other. Words are
asked for, one is given back and asked for again, and a digit is not found. -/
theorem observe_of_agreeOutside_invalid :
    let r : Lexicon .backtracking {} := .ofList [("any", "("), ("space", " +"), ("word", "[a-z]+")]
    let r' : Lexicon .backtracking {} :=
      .ofList [("any", ".*"), ("space", " +"), ("word", "[a-z]+")]
    let cs : List TokenizerCommand :=
      [.next ["word"], .next ["word", "sign"], .returnTo 1, .tokenAt 1 ["word"], .next ["digit"]]
    let input : Text := [' ', 'a', ' ', 'b', ' ', '1']
    r.AgreeOutside {"any"} r' ∧ (∀ name ∈ ["space"], name ∉ ({"any"} : Set String)) ∧
      (∀ c ∈ cs, c.Avoids {"any"}) ∧
      observe r' (ofInput r' ["space"] input) cs = observe r (ofInput r ["space"] input) cs ∧
      (runAll r (ofInput r ["space"] input) cs).2.isAttempted 0 = false := by
  intro r r' cs input
  have h : r.AgreeOutside {"any"} r' :=
    .cons ⟨rfl, fun hname => absurd rfl hname⟩
      (.cons ⟨rfl, fun _ => rfl⟩ (.cons ⟨rfl, fun _ => rfl⟩ .nil))
  have hignored : ∀ name ∈ ["space"], name ∉ ({"any"} : Set String) := by simp
  have hcs : ∀ c ∈ cs, c.Avoids {"any"} := by simp [cs, TokenizerCommand.Avoids]
  obtain ⟨hsame, halone, -⟩ := observe_of_agreeOutside h hignored input hcs
  exact ⟨h, hignored, hcs, hsame, halone 0 _ rfl rfl⟩

end Tokenizer

end SheetLex
