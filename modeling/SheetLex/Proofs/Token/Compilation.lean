import SheetLex.Proofs.Token.Registration
import SheetLex.Proofs.Token.Verdict
import Mathlib.Data.Nat.Find
import SheetLex.Regex.Engine

/-!
# Compiling on demand

A pattern is compiled when it is first tried, so what has been compiled tells how far the readers of
a lexicon have come. A scan tries patterns at every offset of its course, up to the first that
decides there (`Course.mem_tried_iff`). A request for a token of the history, or for one beyond the
next, tries none.

A scan that is not restricted tries the patterns at an offset one after the other, from the first
on, and to compile all patterns is to try them so once. At every moment the ranks tried are
therefore without gaps (`SessionCommand.Unrestricted.gapless_tried`), and what was compiled remains
an initial segment of the order of precedence (`Lexicon.AttemptedBelow.markAttempted`), whoever
shares the lexicon. A scan that is restricted passes over patterns, but it compiles none that it is
not to find or to ignore (`attempted_on_demand`).
-/

set_option autoImplicit false

namespace SheetLex

variable {engine : RegexEngine} {options : MatchOptions}

/-! ## Ranks without gaps -/

/-- At every moment, when the list is read from its start, the ranks that were read are an initial
segment. -/
def Gapless (ranks : List Nat) : Prop :=
  ∀ i, ∀ rank ∈ ranks.take i, ∀ lower < rank, lower ∈ ranks.take i

theorem gapless_nil : Gapless [] := by
  intro i rank hrank
  rw [List.take_nil] at hrank
  cases hrank

theorem gapless_range (n : Nat) : Gapless (List.range n) := by
  intro i rank hrank lower hlower
  rw [List.take_range, List.mem_range] at hrank ⊢
  exact Nat.lt_trans hlower hrank

theorem Gapless.append {first second : List Nat} (h : Gapless first) (h' : Gapless second) :
    Gapless (first ++ second) := by
  intro i rank hrank lower hlower
  rw [List.take_append, List.mem_append] at hrank ⊢
  -- what was read of either list is without gaps by itself
  exact hrank.imp (h i rank · lower hlower) (h' (i - first.length) rank · lower hlower)

theorem gapless_flatMap {α : Type} {l : List α} {f : α → List Nat} (h : ∀ a ∈ l, Gapless (f a)) :
    Gapless (l.flatMap f) := by
  induction l with
  | nil => exact gapless_nil
  | cons a l ih =>
    rw [List.flatMap_cons]
    exact (h a List.mem_cons_self).append (ih fun b hb => h b (List.mem_cons_of_mem a hb))

theorem Gapless.take {ranks : List Nat} (h : Gapless ranks) (i : Nat) : Gapless (ranks.take i) := by
  intro j
  -- a moment of the shorter list is one of the longer list
  rw [List.take_take]
  exact h (min j i)

theorem Gapless.mem {ranks : List Nat} (h : Gapless ranks) {rank lower : Nat} (hrank : rank ∈ ranks)
    (hlower : lower < rank) : lower ∈ ranks := by
  have hall := h ranks.length rank
  rw [List.take_length] at hall
  exact hall hrank lower hlower

/-! ## Lexicons -/

namespace Lexicon

/-- The patterns whose compilation was attempted are the first `n` in order of precedence. -/
structure AttemptedBelow (r : Lexicon engine options) (n : Nat) : Prop where
  le_size : n ≤ r.size
  isAttempted_iff : ∀ rank, r.isAttempted rank = true ↔ rank < n

variable {r : Lexicon engine options} {n : Nat}

/-- An initial segment is what is bounded and closed below. -/
theorem exists_attemptedBelow_iff :
    (∃ n, r.AttemptedBelow n) ↔
      r.Bounded ∧ ∀ rank lower, r.isAttempted rank = true → lower < rank →
        r.isAttempted lower = true := by
  constructor
  · rintro ⟨n, hle, hiff⟩
    constructor
    · intro rank hrank
      exact Nat.lt_of_lt_of_le ((hiff rank).1 hrank) hle
    · intro rank lower hrank hlower
      exact (hiff lower).2 (Nat.lt_trans hlower ((hiff rank).1 hrank))
  · rintro ⟨hbounded, hclosed⟩
    have hsize : ¬ r.isAttempted r.size = true := by
      intro hattempted
      exact Nat.lt_irrefl _ (hbounded _ hattempted)
    -- the segment ends at the first pattern that was not attempted
    have hexists : ∃ rank, ¬ r.isAttempted rank = true := ⟨r.size, hsize⟩
    refine ⟨Nat.find hexists, Nat.find_min' hexists hsize, ?_⟩
    intro rank
    constructor
    · intro hrank
      by_contra hle
      rcases Nat.lt_or_eq_of_le (Nat.le_of_not_lt hle) with hlt | heq
      · exact Nat.find_spec hexists (hclosed rank _ hrank hlt)
      · exact Nat.find_spec hexists (heq ▸ hrank)
    · intro hlt
      exact not_not.1 (Nat.find_min hexists hlt)

/-- Patterns that are tried without gaps leave an initial segment attempted. -/
theorem AttemptedBelow.markAttempted (h : r.AttemptedBelow n) {ranks : List Nat}
    (hgapless : Gapless ranks) (hranks : ∀ rank ∈ ranks, rank < r.size) :
    ∃ m, (r.markAttempted ranks).AttemptedBelow m := by
  obtain ⟨hbounded, hclosed⟩ := exists_attemptedBelow_iff.1 ⟨n, h⟩
  refine exists_attemptedBelow_iff.2 ⟨hbounded.markAttempted hranks, ?_⟩
  intro rank lower hrank hlower
  rw [isAttempted_markAttempted] at hrank ⊢
  -- both sets are closed below, and so is what is in one or the other
  exact hrank.imp (hclosed rank lower · hlower) (hgapless.mem · hlower)

/-- The names that show are those of the segment. -/
theorem AttemptedBelow.attemptedNames_eq (h : r.AttemptedBelow n) :
    r.attemptedNames = (r.patterns.take n).map Pattern.name := by
  -- the ranks are counted from any number on
  have hshown (patterns : List (Pattern engine options)) (first : Nat) :
      (patterns.zipIdx first).filterMap
          (fun numbered => if r.isAttempted numbered.2 then some numbered.1.name else none) =
        (patterns.take (n - first)).map Pattern.name := by
    induction patterns generalizing first with
    | nil => simp
    | cons p rest ih =>
      rw [List.zipIdx_cons, List.filterMap_cons, ih]
      by_cases hfirst : first < n
      · have hrest : n - first = n - (first + 1) + 1 := by omega
        simp only [if_pos ((h.isAttempted_iff first).2 hfirst)]
        rw [hrest, List.take_succ_cons, List.map_cons]
      · have hnone : n - first = 0 ∧ n - (first + 1) = 0 := by omega
        simp only [if_neg (mt (h.isAttempted_iff first).1 hfirst)]
        rw [hnone.1, hnone.2, List.take_zero, List.take_zero]
  exact hshown r.patterns 0

/-- Nothing has been compiled in a new lexicon. -/
theorem attemptedBelow_ofList (patterns : List (String × String)) :
    (ofList patterns : Lexicon engine options).AttemptedBelow 0 := by
  -- adding a pattern compiles none
  have hattempted (r : Lexicon engine options) : (r.addAll patterns).attempted = r.attempted := by
    induction patterns generalizing r with
    | nil => rfl
    | cons p patterns ih =>
      refine (ih (r.add p.1 p.2).2).trans ?_
      rw [add]
      split <;> rfl
  refine ⟨Nat.zero_le _, ?_⟩
  intro rank
  rw [isAttempted, ofList, hattempted]
  simp

/-- Patterns are compiled one after the other, as far as it goes. -/
theorem prepareFrom_eq_range' (first : Nat) (patterns : List (Pattern engine options)) :
    ∃ m, (prepareFrom first patterns).2 = List.range' first m := by
  induction patterns generalizing first with
  | nil => exact ⟨0, rfl⟩
  | cons p rest ih =>
    rw [prepareFrom]
    split
    · exact ⟨1, rfl⟩
    · obtain ⟨m, hm⟩ := ih (first + 1)
      refine ⟨m + 1, ?_⟩
      rw [List.range'_succ, ← hm]

end Lexicon

/-! ## Scans -/

namespace Tokenizer

variable {patterns : List (Pattern engine options)} {s : Tokenizer} {restriction : Restriction}
variable {pos stop rank : Nat}

/-- Without a restriction the patterns at an offset are tried one after the other. -/
theorem tried_firstMatch_eq_range' (ignored : List Nat) (input : Subject) (pos first : Nat)
    (patterns : List (Pattern engine options)) :
    ∃ m, (firstMatch ignored [] input pos first patterns).2 = List.range' first m := by
  induction patterns generalizing first with
  | nil => exact ⟨0, rfl⟩
  | cons p rest ih =>
    have heligible : isEligible ignored [] first p.name = true := Bool.or_true _
    rw [tried_firstMatch_cons, if_pos heligible]
    split
    · obtain ⟨m, hm⟩ := ih (first + 1)
      refine ⟨m + 1, ?_⟩
      rw [hm, List.range'_succ, List.singleton_append]
    · exact ⟨1, rfl⟩

theorem gapless_firstMatch (ignored : List Nat) (input : Subject) (pos : Nat)
    (patterns : List (Pattern engine options)) :
    Gapless (firstMatch ignored [] input pos 0 patterns).2 := by
  obtain ⟨m, hm⟩ := tried_firstMatch_eq_range' ignored input pos 0 patterns
  rw [hm, ← List.range_eq_range']
  exact gapless_range m

/-- Without a restriction a search tries patterns without gaps, at every offset anew. -/
theorem gapless_tried_find (patterns : List (Pattern engine options)) (ignored : List Nat)
    (input : Subject) (pos : Nat) : Gapless (find patterns ignored [] input pos).tried := by
  -- along the recursion of the search: what is tried at an offset comes before what is tried later
  fun_induction find patterns ignored [] input pos with
  | case1 pos w tried hfirst hignored rest ih =>
    have hhere := gapless_firstMatch ignored input pos patterns
    rw [hfirst] at hhere
    exact hhere.append ih
  | case2 pos w tried hfirst hignored =>
    have hhere := gapless_firstMatch ignored input pos patterns
    rw [hfirst] at hhere
    exact hhere
  | case3 pos outcome tried hother hfirst =>
    have hhere := gapless_firstMatch ignored input pos patterns
    rw [hfirst] at hhere
    exact hhere

/-- At the offset a scan tries the pattern with the rank given: the pattern takes part, and those
that come before it come to nothing. -/
def Tries (patterns : List (Pattern engine options)) (s : Tokenizer) (restriction : Restriction)
    (pos rank : Nat) : Prop :=
  ∃ p, patterns[rank]? = some p ∧ s.TakesPart restriction rank p ∧
    ∀ j q, j < rank → patterns[j]? = some q → s.Idle restriction pos j q

theorem mem_firstMatch_iff_tries :
    rank ∈ (firstMatch s.ignored restriction s.input pos 0 patterns).2 ↔
      Tries patterns s restriction pos rank := by
  simp only [mem_firstMatch_iff, Nat.zero_add, isEligible_iff, trial_eq_none_iff, Tries]
  constructor
  · rintro ⟨i, p, rfl, hp, htakes, hbefore⟩
    exact ⟨p, hp, htakes, hbefore⟩
  · rintro ⟨p, hp, htakes, hbefore⟩
    exact ⟨rank, p, rfl, hp, htakes, hbefore⟩

/-- A scan tries patterns at the offsets of its course and nowhere else. -/
theorem Course.mem_tried_iff {offsets : List Nat}
    (h : Course patterns s restriction pos offsets stop) :
    rank ∈ (find patterns s.ignored restriction s.input pos).tried ↔
      ∃ offset ∈ offsets, Tries patterns s restriction offset rank := by
  induction h with
  | @rests pos hrests =>
    simp only [List.mem_singleton, exists_eq_left, ← mem_firstMatch_iff_tries]
    rw [find_eq]
    split
    · rename_i w tried hfirst
      rw [if_neg, hfirst]
      -- were the winner ignored, the course would go on
      intro hignored
      exact hrests _ (goesPast_iff.2 ⟨w, congrArg Prod.fst hfirst, hignored, rfl⟩)
    · rename_i hfirst
      rw [hfirst]
  | @goesPast pos next stop offsets hgoes hcourse ih =>
    obtain ⟨w, hwinner, hignored, rfl⟩ := goesPast_iff.1 hgoes
    rw [List.exists_mem_cons_iff, ← mem_firstMatch_iff_tries, ← ih, ← List.mem_append]
    conv_lhs => rw [find_eq]
    split
    · rename_i w' tried hfirst
      rw [hfirst] at hwinner
      obtain rfl : w' = w := Option.some.inj (Except.ok.inj hwinner)
      rw [if_pos hignored, hfirst]
    · rename_i outcome tried hother hfirst
      rw [hfirst] at hwinner
      exact absurd hwinner (hother w)

/-! ## Requests -/

/-- The ranks of the patterns that a request for a token has compiled, in the order in which it
tries them. -/
def tried (patterns : List (Pattern engine options)) (s : Tokenizer) (index : Nat)
    (restriction : Restriction) : List Nat :=
  if index = s.history.length then (find patterns s.ignored restriction s.input s.cursor).tried
  else []

/-- A token of the history is given, and one beyond the next is refused, without a scan. -/
theorem tried_of_ne {index : Nat} (h : index ≠ s.history.length) :
    s.tried patterns index restriction = [] := if_neg h

/-- A request that is not restricted tries patterns without gaps. -/
theorem gapless_tried (patterns : List (Pattern engine options)) (s : Tokenizer) (index : Nat) :
    Gapless (s.tried patterns index []) := by
  by_cases hindex : index = s.history.length
  · rw [tried, if_pos hindex]
    exact gapless_tried_find patterns s.ignored s.input s.cursor
  · rw [tried_of_ne hindex]
    exact gapless_nil

/-- A request for the next token has its course, and tries patterns there. -/
theorem exists_course_tried (patterns : List (Pattern engine options)) (s : Tokenizer)
    (restriction : Restriction) :
    ∃ offsets stop, Course patterns s restriction s.cursor offsets stop ∧
      ∀ rank, rank ∈ s.tried patterns s.history.length restriction ↔
        ∃ offset ∈ offsets, Tries patterns s restriction offset rank := by
  obtain ⟨skips, hskips, -⟩ := find_spec patterns s.ignored restriction s.input s.cursor
  obtain ⟨offsets, hcourse⟩ :=
    hskips.course (rests_find patterns s.ignored restriction s.input s.cursor)
  refine ⟨offsets, _, hcourse, ?_⟩
  intro rank
  rw [tried, if_pos rfl]
  exact hcourse.mem_tried_iff

theorem lexicon_tokenAt (r : Lexicon engine options) (s : Tokenizer) (index : Nat)
    (restriction : Restriction) :
    (s.tokenAt r index restriction).2.2 =
      r.markAttempted (s.tried r.patterns index restriction) := by
  rcases Nat.lt_trichotomy index s.history.length with hindex | rfl | hindex
  · rw [tokenAt_of_getElem? r (List.getElem?_eq_getElem hindex), tried_of_ne (Nat.ne_of_lt hindex)]
    rfl
  · rw [tokenAt_length, lexicon_advance, tried, if_pos rfl]
  · rw [tokenAt_of_length_lt r hindex, tried_of_ne (Nat.ne_of_gt hindex)]
    rfl

/-- Only patterns that take part are tried. -/
theorem takesPart_of_mem_tried {index : Nat} (h : rank ∈ s.tried patterns index restriction) :
    ∃ p, patterns[rank]? = some p ∧ s.TakesPart restriction rank p := by
  rw [tried] at h
  split at h
  · obtain ⟨p, hp, heligible⟩ := exists_of_mem_tried h
    exact ⟨p, hp, isEligible_iff.1 heligible⟩
  · cases h

end Tokenizer

/-! ## Commands -/

/-- The token that a command asks the tokenizer of a reader for, if it does: the index of the token
and the restriction. -/
def ReaderCommand.request? (c : Lookahead) : ReaderCommand → Option (Nat × Restriction)
  | .tokenizer (.tokenAt index restriction) => some (index, restriction)
  | .tokenizer (.next restriction) => some (c.tokenizer.history.length, restriction)
  | .lookahead (.nextKind kinds) => some (c.position, kinds)
  | .lookahead (.take kind) => some (c.position, [kind])
  | .tokenizer (.returnTo _) => none
  | .tokenizer (.restart _) => none
  | .lookahead (.restart _) => none
  | .fromFirst => none

/-- The ranks of the patterns that a command to a reader tries, in order. -/
def ReaderCommand.tried (patterns : List (Pattern engine options)) (c : Lookahead)
    (k : ReaderCommand) : List Nat :=
  match k.request? c with
  | some (index, restriction) => c.tokenizer.tried patterns index restriction
  | none => []

/-- What a command compiles are the patterns that it tries. -/
theorem ReaderCommand.lexicon_run (r : Lexicon engine options) (c : Lookahead) (k : ReaderCommand) :
    (k.run r c).2.2 = r.markAttempted (k.tried r.patterns c) := by
  cases k with
  | tokenizer k =>
    cases k with
    | tokenAt index restriction => exact Tokenizer.lexicon_tokenAt r c.tokenizer index restriction
    | next restriction => exact Tokenizer.lexicon_tokenAt r c.tokenizer _ restriction
    | returnTo index => rfl
    | restart input => rfl
  | lookahead k =>
    cases k with
    | nextKind kinds =>
      change (c.nextKind r kinds).2.2 = _
      rw [Lookahead.nextKind_eq]
      exact Tokenizer.lexicon_tokenAt r c.tokenizer c.position kinds
    | take kind =>
      change (c.take r kind).2.2 = _
      rw [Lookahead.take_eq]
      exact Tokenizer.lexicon_tokenAt r c.tokenizer c.position [kind]
    | restart input => rfl
  | fromFirst => rfl

namespace SessionCommand

/-- The ranks of the patterns that a command in a session tries, in order. -/
def tried (session : Session engine options) : SessionCommand → List Nat
  | .ask reader k =>
    match session.readers[reader]? with
    | some c => k.tried session.lexicon.patterns c
    | none => []
  | .prepareAll => (Lexicon.prepareFrom 0 session.lexicon.patterns).2
  | .enter _ _ => []
  | .copy _ => []

/-- Whatever token the command asks for, it does so without a restriction. -/
def Unrestricted : SessionCommand → Prop
  | .ask _ k => ∀ c index restriction, k.request? c = some (index, restriction) → restriction = []
  | .enter _ _ => True
  | .copy _ => True
  | .prepareAll => True

theorem lexicon_run (session : Session engine options) (k : SessionCommand) :
    (k.run session).2.lexicon = session.lexicon.markAttempted (k.tried session) := by
  cases k with
  | enter ignored input => rfl
  | copy reader => rfl
  | ask reader k =>
    rw [run, tried]
    cases session.readers[reader]? with
    | some c => exact ReaderCommand.lexicon_run session.lexicon c k
    | none => rfl
  | prepareAll => rfl

/-- A reader that asks its tokenizer for a token has compiled what the request tries. -/
theorem lexicon_ask {session : Session engine options} {reader : Nat} {c : Lookahead}
    {k : ReaderCommand}
    {index : Nat} {restriction : Restriction} (hreader : session.readers[reader]? = some c)
    (hrequest : k.request? c = some (index, restriction)) :
    ((ask reader k).run session).2.lexicon = session.lexicon.markAttempted
      (c.tokenizer.tried session.lexicon.patterns index restriction) := by
  rw [lexicon_run, tried, hreader]
  simp only [ReaderCommand.tried, hrequest]

/-- Only patterns of the lexicon are tried. -/
theorem lt_size_of_mem_tried {session : Session engine options} {k : SessionCommand} {rank : Nat}
    (h : rank ∈ k.tried session) : rank < session.lexicon.size := by
  cases k with
  | enter ignored input => cases h
  | copy reader => cases h
  | ask reader k =>
    rw [tried] at h
    split at h
    · rw [ReaderCommand.tried] at h
      split at h
      · obtain ⟨p, hp, -⟩ := Tokenizer.takesPart_of_mem_tried h
        exact (List.getElem?_eq_some_iff.1 hp).1
      · cases h
    · cases h
  | prepareAll =>
    have hlt := Lexicon.lt_of_mem_prepareFrom h
    rw [Nat.zero_add] at hlt
    exact hlt

/-- A command that is not restricted tries patterns without gaps. -/
theorem Unrestricted.gapless_tried {k : SessionCommand} (hk : k.Unrestricted)
    (session : Session engine options) : Gapless (k.tried session) := by
  cases k with
  | enter ignored input => exact gapless_nil
  | copy reader => exact gapless_nil
  | ask reader k =>
    rw [tried]
    split
    · rename_i c _
      rw [ReaderCommand.tried]
      split
      · rename_i index restriction hrequest
        obtain rfl := hk c index restriction hrequest
        exact Tokenizer.gapless_tried _ c.tokenizer index
      · exact gapless_nil
    · exact gapless_nil
  | prepareAll =>
    obtain ⟨m, hm⟩ := Lexicon.prepareFrom_eq_range' 0 session.lexicon.patterns
    rw [tried, hm, ← List.range_eq_range']
    exact gapless_range m

theorem Unrestricted.attemptedBelow_run {k : SessionCommand} (hk : k.Unrestricted)
    {session : Session engine options} {n : Nat} (h : session.lexicon.AttemptedBelow n) :
    ∃ m, (k.run session).2.lexicon.AttemptedBelow m := by
  rw [lexicon_run]
  exact h.markAttempted (hk.gapless_tried session) fun _ => lt_size_of_mem_tried

end SessionCommand

/-! ## Sessions -/

namespace Session

variable {session : Session engine options} {n : Nat}

/-- While commands that are not restricted are under way, each of which has come to some of the
patterns that it tries, an initial segment is compiled. -/
theorem attemptedBelow_underway (h : session.lexicon.AttemptedBelow n)
    {underway : List (SessionCommand × Nat)} (hunderway : ∀ u ∈ underway, u.1.Unrestricted) :
    ∃ m, (session.lexicon.markAttempted
      (underway.flatMap fun u => (u.1.tried session).take u.2)).AttemptedBelow m := by
  apply h.markAttempted
  · apply gapless_flatMap
    intro u hu
    exact ((hunderway u hu).gapless_tried session).take u.2
  · intro rank hrank
    obtain ⟨u, -, hmem⟩ := List.mem_flatMap.1 hrank
    exact SessionCommand.lt_size_of_mem_tried (List.mem_of_mem_take hmem)

theorem attemptedBelow_runAll (h : session.lexicon.AttemptedBelow n) {ks : List SessionCommand}
    (hks : ∀ k ∈ ks, k.Unrestricted) : ∃ m, (session.runAll ks).lexicon.AttemptedBelow m := by
  induction ks generalizing session n with
  | nil => exact ⟨n, h⟩
  | cons k ks ih =>
    obtain ⟨m, hm⟩ := (hks k List.mem_cons_self).attemptedBelow_run h
    exact ih hm fun l hl => hks l (List.mem_cons_of_mem k hl)

end Session

/-- However a lexicon is shared, patterns are compiled on demand only. As long as no request is
restricted, the patterns whose compilation was attempted are an initial segment of the order of
precedence, behind every command and at every moment of the commands that are under way at once,
each of which tries its patterns one by one. A request for a token of the history, or for one beyond
the next, compiles nothing. A request for the next token has those patterns compiled that it tries
at the offsets of its course; if it is restricted, these have one of the names asked for, or are
ignored. -/
theorem attempted_on_demand {r : Lexicon engine options} {n : Nat} (hr : r.AttemptedBelow n)
    (ks : List SessionCommand) :
    let session := Session.runAll { lexicon := r } ks
    ((∀ k ∈ ks, k.Unrestricted) →
        (∃ m, session.lexicon.AttemptedBelow m ∧
          session.lexicon.attemptedNames = (r.patterns.take m).map Pattern.name) ∧
        ∀ underway : List (SessionCommand × Nat), (∀ u ∈ underway, u.1.Unrestricted) →
          ∃ m, (session.lexicon.markAttempted
            (underway.flatMap fun u => (u.1.tried session).take u.2)).AttemptedBelow m) ∧
      (∀ k : SessionCommand,
        (k.run session).2.lexicon = session.lexicon.markAttempted (k.tried session)) ∧
      ∀ reader c k index restriction, session.readers[reader]? = some c →
        k.request? c = some (index, restriction) →
        let behind := ((SessionCommand.ask reader k).run session).2.lexicon
        (index ≠ c.tokenizer.history.length → behind = session.lexicon) ∧
          (index = c.tokenizer.history.length → ∃ offsets stop,
            Tokenizer.Course r.patterns c.tokenizer restriction c.tokenizer.cursor offsets stop ∧
              ∀ rank, behind.isAttempted rank = true ↔ session.lexicon.isAttempted rank = true ∨
                ∃ offset ∈ offsets,
                  Tokenizer.Tries r.patterns c.tokenizer restriction offset rank) ∧
          (restriction ≠ [] → ∀ rank, behind.isAttempted rank = true →
            session.lexicon.isAttempted rank = true ∨ ∃ p, r.patterns[rank]? = some p ∧
              (p.name ∈ restriction ∨ rank ∈ c.tokenizer.ignored)) := by
  intro session
  have hpatterns : session.lexicon.patterns = r.patterns :=
    (Session.grows_runAll { lexicon := r } ks).patterns_eq
  refine ⟨?_, SessionCommand.lexicon_run session, ?_⟩
  · intro hks
    have hsession : ∃ m, session.lexicon.AttemptedBelow m := Session.attemptedBelow_runAll hr hks
    obtain ⟨m, hm⟩ := hsession
    refine ⟨⟨m, hm, ?_⟩, fun underway => Session.attemptedBelow_underway hm⟩
    rw [← hpatterns]
    exact hm.attemptedNames_eq
  · intro reader c k index restriction hreader hrequest behind
    have hbehind : behind = session.lexicon.markAttempted
        (c.tokenizer.tried r.patterns index restriction) := by
      rw [← hpatterns]
      exact SessionCommand.lexicon_ask hreader hrequest
    rw [hbehind]
    refine ⟨?_, ?_, ?_⟩
    · intro hindex
      rw [Tokenizer.tried_of_ne hindex]
      rfl
    · rintro rfl
      obtain ⟨offsets, stop, hcourse, htried⟩ :=
        Tokenizer.exists_course_tried r.patterns c.tokenizer restriction
      refine ⟨offsets, stop, hcourse, ?_⟩
      intro rank
      rw [Lexicon.isAttempted_markAttempted, htried]
    · intro hne rank hrank
      rw [Lexicon.isAttempted_markAttempted] at hrank
      apply hrank.imp_right
      intro htried
      obtain ⟨p, hp, htakes⟩ := Tokenizer.takesPart_of_mem_tried htried
      exact ⟨p, hp, htakes.resolve_left hne⟩

/-- One reader takes a number, and only its pattern is compiled; it is given the number once more,
and nothing is compiled. Another one looks for a word behind a space that is ignored, and passes
over a pattern that is not valid. Were it to look for any token instead, with all patterns being
compiled at the same time, an initial segment would be compiled at the moment given. -/
theorem attempted_on_demand_word :
    let r : Lexicon .backtracking {} :=
      .ofList [("number", "1+"), ("group", "("), ("space", " +"), ("word", "a+")]
    let ks : List SessionCommand :=
      [.enter ["space"] ['1'], .enter ["space"] [' ', 'a'], .ask 0 (.tokenizer (.next []))]
    let session := Session.runAll { lexicon := r } ks
    let again : SessionCommand := .ask 0 (.tokenizer (.tokenAt 0 ["number"]))
    let behind := ((SessionCommand.ask 1 (.lookahead (.nextKind ["word"]))).run session).2.lexicon
    let underway : List (SessionCommand × Nat) :=
      [(.ask 1 (.lookahead (.nextKind [])), 1), (.prepareAll, 2)]
    r.AttemptedBelow 0 ∧ (∀ k ∈ ks, k.Unrestricted) ∧ (∀ u ∈ underway, u.1.Unrestricted) ∧
      (∃ m, session.lexicon.AttemptedBelow m ∧
        session.lexicon.attemptedNames = (r.patterns.take m).map Pattern.name) ∧
      (∃ m, (session.lexicon.markAttempted
        (underway.flatMap fun u => (u.1.tried session).take u.2)).AttemptedBelow m) ∧
      session.lexicon.attemptedNames = ["number"] ∧
      (again.run session).2.lexicon = session.lexicon ∧
      behind.attemptedNames = ["number", "space", "word"] ∧ behind.isAttempted 1 = false := by
  intro r ks session again behind underway
  have hr : r.AttemptedBelow 0 := Lexicon.attemptedBelow_ofList _
  have hks : ∀ k ∈ ks, k.Unrestricted := by
    simp only [ks, List.forall_mem_cons]
    refine ⟨trivial, trivial, ?_, List.forall_mem_nil _⟩
    intro c index restriction hrequest
    cases hrequest
    rfl
  have hunderway : ∀ u ∈ underway, u.1.Unrestricted := by
    simp only [underway, List.forall_mem_cons]
    refine ⟨?_, trivial, List.forall_mem_nil _⟩
    intro c index restriction hrequest
    cases hrequest
    rfl
  obtain ⟨hinitial, -, hrequested⟩ := attempted_on_demand hr ks
  obtain ⟨hnone, -⟩ := hrequested 0 _ (.tokenizer (.tokenAt 0 ["number"])) 0 ["number"] rfl rfl
  obtain ⟨-, -, hdemanded⟩ := hrequested 1 _ (.lookahead (.nextKind ["word"])) 0 ["word"] rfl rfl
  refine ⟨hr, hks, hunderway, (hinitial hks).1, (hinitial hks).2 underway hunderway,
    by decide +kernel, hnone (by decide +kernel), by decide +kernel, ?_⟩
  -- the pattern that is not valid was not compiled before, is not ignored and has another name
  rw [← Bool.not_eq_true]
  intro hattempted
  rcases hdemanded (List.cons_ne_nil _ _) 1 hattempted with hbefore | ⟨p, hp, hname | hignored⟩
  · have hnot : session.lexicon.isAttempted 1 = false := by decide +kernel
    rw [hnot] at hbefore
    cases hbefore
  · obtain rfl : Pattern.ofSource "group" "(" = p := Option.some.inj hp
    revert hname
    decide
  · revert hignored
    decide +kernel

end SheetLex
