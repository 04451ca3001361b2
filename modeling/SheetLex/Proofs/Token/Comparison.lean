import SheetLex.Proofs.Token.Transparency

/-!
# Comparing runs

Two tokenizers over two lexicons are compared by what shows of them (`Observation`): the answers to
their commands, and the histories and the positions behind them.

What a scan does is settled by the winners at the offsets that it comes past. Where the patterns of
one lexicon have the winners of another one, searches agree (`find_congr`). At an offset the
eligible patterns are tried up to the first that decides (`mem_firstMatch_iff`); patterns that are
not eligible are not tried in a search at all (`exists_of_mem_tried`).
-/

set_option autoImplicit false

namespace SheetLex

namespace Tokenizer

variable {engine : RegexEngine} {options : MatchOptions}

/-! ## What shows of a run -/

/-- What shows of a command: the answer to it, and the history and the position behind it. -/
structure Observation extends Outcome where
  position : Nat
deriving DecidableEq

/-- What shows of one command. -/
def observeOne (r : Lexicon engine options) (s : Tokenizer) (c : TokenizerCommand) :
    Observation where
  answer := (c.run r s).1
  history := (c.run r s).2.1.history
  position := (c.run r s).2.1.position

/-- What shows of the commands of a run, one after the other. -/
def observe : Lexicon engine options → Tokenizer → List TokenizerCommand → List Observation
  | _, _, [] => []
  | r, s, c :: cs => observeOne r s c :: observe (c.run r s).2.2 (c.run r s).2.1 cs

/-! ## Searches -/

section Searches

variable {patterns patterns' : List (Pattern engine options)} {ignored : List Nat}
variable {restriction : Restriction} {input : Subject} {pos : Nat}

/-- One step of a search. -/
theorem find_eq (patterns : List (Pattern engine options)) (ignored : List Nat)
    (restriction : Restriction) (input : Subject) (pos : Nat) :
    find patterns ignored restriction input pos =
      match firstMatch ignored restriction input pos 0 patterns with
      | (.ok (some w), tried) =>
        if ignored.contains w.rank = true then
          let rest := find patterns ignored restriction input (pos + w.length)
          { rest with tried := tried ++ rest.tried }
        else ⟨.ok (some w), pos, tried⟩
      | (outcome, tried) => ⟨outcome, pos, tried⟩ := by
  rw [find]
  split
  · rename_i w tried hfirst
    rw [hfirst]
    simp only [dite_eq_ite]
  · rename_i outcome tried hother hfirst
    rw [hfirst]
    split
    · rename_i w tried' heq
      cases heq
      exact absurd rfl (hother w)
    · rename_i heq
      cases heq
      rfl

/-- Searches agree if at every offset the same comes of trying the patterns, and the same patterns
are ignored. -/
theorem find_congr {ignored' : List Nat} {restriction' : Restriction}
    (hignored : ∀ rank, ignored'.contains rank = ignored.contains rank)
    (h : ∀ pos, firstMatch ignored' restriction' input pos 0 patterns' =
      firstMatch ignored restriction input pos 0 patterns) (pos : Nat) :
    find patterns' ignored' restriction' input pos =
      find patterns ignored restriction input pos := by
  -- along the recursion of the second search, which the first one follows
  fun_induction find patterns ignored restriction input pos with
  | case1 pos w tried hfirst hwinner rest ih =>
    rw [find_eq, h, hfirst]
    simp only [hignored, if_pos hwinner, ih]
    rfl
  | case2 pos w tried hfirst hwinner =>
    rw [find_eq, h, hfirst]
    simp only [hignored, if_neg hwinner]
  | case3 pos outcome tried hother hfirst =>
    rw [find_eq, h, hfirst]
    split
    · rename_i w tried' heq
      cases heq
      exact absurd rfl (hother w)
    · rename_i heq
      cases heq
      rfl

/-- The first pattern is tried if it is eligible, and the others are if it comes to nothing. -/
theorem tried_firstMatch_cons {rank : Nat} (p : Pattern engine options)
    (rest : List (Pattern engine options)) :
    (firstMatch ignored restriction input pos rank (p :: rest)).2 =
      (if isEligible ignored restriction rank p.name then [rank] else []) ++
        match trial ignored restriction input pos rank p with
        | .ok none => (firstMatch ignored restriction input pos (rank + 1) rest).2
        | _ => [] := by
  rw [firstMatch, trial]
  split
  · rcases p.extent? input pos with e | (_ | n)
    · rfl
    · rfl
    · simp only
      split <;> rfl
  · rfl

/-- At an offset the patterns are tried that are eligible, up to the first that does not come to
nothing. -/
theorem mem_firstMatch_iff {rank tried : Nat} :
    tried ∈ (firstMatch ignored restriction input pos rank patterns).2 ↔
      ∃ i p, tried = rank + i ∧ patterns[i]? = some p ∧
        isEligible ignored restriction tried p.name = true ∧
        ∀ j q, j < i → patterns[j]? = some q →
          trial ignored restriction input pos (rank + j) q = .ok none := by
  induction patterns generalizing rank with
  | nil => simp [firstMatch]
  | cons p rest ih =>
    have hshift (i : Nat) : rank + (i + 1) = rank + 1 + i := by omega
    rw [tried_firstMatch_cons, List.mem_append]
    constructor
    · rintro (htried | htried)
      · -- the pattern is the first one that is tried
        split at htried
        · rename_i heligible
          obtain rfl := List.mem_singleton.1 htried
          exact ⟨0, p, rfl, rfl, heligible, fun j q hj => absurd hj (Nat.not_lt_zero j)⟩
        · cases htried
      · -- it comes to nothing, and a later pattern is tried
        split at htried
        · rename_i hfirst
          obtain ⟨i, q, rfl, hq, heligible, hbefore⟩ := ih.1 htried
          refine ⟨i + 1, q, (hshift i).symm, hq, heligible, ?_⟩
          intro j q' hj hq'
          cases j with
          | zero =>
            obtain rfl : p = q' := Option.some.inj hq'
            exact hfirst
          | succ j =>
            rw [hshift]
            exact hbefore j q' (Nat.lt_of_succ_lt_succ hj) hq'
        · cases htried
    · rintro ⟨i, q, rfl, hq, heligible, hbefore⟩
      cases i with
      | zero =>
        obtain rfl : p = q := Option.some.inj hq
        left
        rw [Nat.add_zero] at heligible ⊢
        rw [if_pos heligible]
        exact List.mem_singleton_self rank
      | succ i =>
        have hfirst : trial ignored restriction input pos rank p = .ok none :=
          hbefore 0 p (Nat.succ_pos i) rfl
        right
        rw [hfirst]
        refine ih.2 ⟨i, q, hshift i, hq, heligible, ?_⟩
        intro j q' hj hq'
        rw [← hshift]
        exact hbefore (j + 1) q' (Nat.succ_lt_succ hj) hq'

/-- Only eligible patterns are tried in a search. -/
theorem exists_of_mem_tried {rank : Nat}
    (h : rank ∈ (find patterns ignored restriction input pos).tried) :
    ∃ p, patterns[rank]? = some p ∧ isEligible ignored restriction rank p.name = true := by
  have once {pos' : Nat} {tried : List Nat}
      (hfirst : (firstMatch ignored restriction input pos' 0 patterns).2 = tried)
      (htried : rank ∈ tried) :
      ∃ p, patterns[rank]? = some p ∧ isEligible ignored restriction rank p.name = true := by
    rw [← hfirst] at htried
    obtain ⟨i, p, hrank, hp, heligible, -⟩ := mem_firstMatch_iff.1 htried
    obtain rfl : rank = i := hrank.trans (Nat.zero_add i)
    exact ⟨p, hp, heligible⟩
  fun_induction find patterns ignored restriction input pos with
  | case1 pos w tried hfirst hignored rest ih =>
    exact (List.mem_append.1 h).elim (once (congrArg Prod.snd hfirst)) ih
  | case2 pos w tried hfirst hignored => exact once (congrArg Prod.snd hfirst) h
  | case3 pos outcome tried hother hfirst => exact once (congrArg Prod.snd hfirst) h

end Searches

end Tokenizer

end SheetLex
