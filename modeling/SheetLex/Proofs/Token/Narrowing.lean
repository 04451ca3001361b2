import SheetLex.Proofs.Token.Retracing
import SheetLex.Regex.Engine

/-!
# Narrower restrictions

A restriction that lets through fewer names makes fewer patterns eligible, and the ignored ones all
the same. So at every offset that a search comes past, an ignored pattern that has won wins once
more: it is still eligible, and of the patterns before it, which came to nothing, those that are
still tried come to nothing again (`firstMatch_of_narrows`). Where the search ends, the same is true
of the pattern of the token, provided that its name is let through. A scan that finds a token
therefore finds it under every narrower restriction that names it (`tokenAt_narrow`).
-/

set_option autoImplicit false

namespace SheetLex

/-- Every name that the first restriction lets through is let through by the second one. -/
def Restriction.Narrows (narrow wide : Restriction) : Prop :=
  ∀ name, narrow.allows name = true → wide.allows name = true

theorem Restriction.allows_of_mem {restriction : Restriction} {name : String}
    (h : name ∈ restriction) : restriction.allows name = true := by
  rw [allows, List.contains_iff_mem.2 h, Bool.or_true]

/-- Some of the names of a restriction make a narrower one; of no restriction at all, any names
do. -/
theorem Restriction.narrows_of_subset {narrow wide : Restriction} (hne : narrow ≠ [])
    (h : wide ≠ [] → ∀ name ∈ narrow, name ∈ wide) : narrow.Narrows wide := by
  intro name hname
  rw [allows, Bool.or_eq_true] at hname
  rcases hname with hempty | hmem
  · exact absurd (List.isEmpty_iff.1 hempty) hne
  · by_cases hwide : wide = []
    · rw [hwide]
      rfl
    · exact allows_of_mem (h hwide name (List.contains_iff_mem.1 hmem))

namespace Tokenizer

variable {engine : RegexEngine} {options : MatchOptions} {patterns : List (Pattern engine options)}
variable {ignored : List Nat} {narrow wide : Restriction} {input : Subject} {pos stop rank : Nat}

theorem isEligible_of_narrows (h : narrow.Narrows wide) {name : String}
    (heligible : isEligible ignored narrow rank name = true) :
    isEligible ignored wide rank name = true := by
  rw [isEligible, Bool.or_eq_true] at heligible ⊢
  exact heligible.imp_right (h name)

/-- A pattern that comes to nothing under a restriction comes to nothing under a narrower one. -/
theorem trial_of_narrows (h : narrow.Narrows wide) {p : Pattern engine options}
    (htrial : trial ignored wide input pos rank p = .ok none) :
    trial ignored narrow input pos rank p = .ok none := by
  cases heligible : isEligible ignored narrow rank p.name with
  | false =>
    rw [trial, heligible]
    exact if_neg Bool.false_ne_true
  | true =>
    -- it is tried under both, and with the same outcome
    rw [trial, isEligible_of_narrows h heligible] at htrial
    rw [trial, heligible]
    exact htrial

/-- A pattern that wins under a restriction wins under a narrower one, if it is still eligible. -/
theorem firstMatch_of_narrows (h : narrow.Narrows wide) {w : Winner}
    (hwinner : (firstMatch ignored wide input pos 0 patterns).1 = .ok (some w))
    (heligible : isEligible ignored narrow w.rank w.name = true) :
    (firstMatch ignored narrow input pos 0 patterns).1 = .ok (some w) := by
  rw [firstMatch_eq_some_iff] at hwinner ⊢
  obtain ⟨i, p, hp, hrank, hname, htrial, hbefore⟩ := hwinner
  refine ⟨i, p, hp, hrank, hname, ?_, ?_⟩
  · rw [hrank, hname] at heligible
    rw [trial_eq_some_iff] at htrial ⊢
    exact ⟨heligible, htrial.2⟩
  · intro j q hj hq
    apply trial_of_narrows h
    exact hbefore j q hj hq

/-- What a search goes past under a restriction, it goes past under a narrower one. -/
theorem Skips.of_narrows (h : narrow.Narrows wide) {skips : List Skip}
    (hskips : Skips patterns ignored wide input pos skips stop) :
    Skips patterns ignored narrow input pos skips stop := by
  induction hskips with
  | stay pos => exact .stay pos
  | skip hwinner hignored hrest ih =>
    -- an ignored pattern is eligible under every restriction
    refine .skip (firstMatch_of_narrows h hwinner ?_) hignored ih
    rw [isEligible, hignored, Bool.true_or]

/-- A scan that finds a token finds it under a narrower restriction that lets its name through. -/
theorem Scan.of_narrows {s t : Tokenizer} {index : Nat} {token : Token} (h : narrow.Narrows wide)
    (hscan : Scan patterns s index wide (.ok token) t) (hname : narrow.allows token.name = true) :
    Scan patterns s index narrow (.ok token) (s.push ⟨token, narrow⟩) := by
  cases hscan with
  | found hskips hwinner hignored hrepeats =>
    refine .found (hskips.of_narrows h) (firstMatch_of_narrows h hwinner ?_) hignored hrepeats
    rw [isEligible, Bool.or_eq_true]
    exact .inr hname

/-- If a tokenizer that is asked for the next token under some restriction finds one, then under
some of the names of that restriction, or under any names if there was none, it finds the same
token, provided that the name of the token is among them. It then stands where it would have stood,
and its history differs in the restriction that goes with the token only. -/
theorem tokenAt_narrow (r : Lexicon engine options) (s : Tokenizer) {t : Token}
    (hfound : (s.tokenAt r s.history.length wide).1 = .ok t) (hname : t.name ∈ narrow)
    (hwithin : wide ≠ [] → ∀ name ∈ narrow, name ∈ wide) :
    let asked := s.tokenAt r s.history.length wide
    let narrowed := s.tokenAt r s.history.length narrow
    narrowed.1 = .ok t ∧ narrowed.2.1.cursor = asked.2.1.cursor ∧
      asked.2.1.history = s.history ++ [⟨t, wide⟩] ∧
      narrowed.2.1 = { asked.2.1 with history := s.history ++ [⟨t, narrow⟩] } := by
  intro asked narrowed
  have hnarrows : narrow.Narrows wide :=
    Restriction.narrows_of_subset (List.ne_nil_of_mem hname) hwithin
  have hscan : Scan r.patterns s s.history.length wide (.ok t) asked.2.1 := by
    rw [← hfound]
    simp only [asked, tokenAt_length]
    exact scan_advance r s _ wide
  -- what is behind the scan is settled by the token and the restriction
  obtain ⟨hasked, -⟩ := hscan.of_found
  obtain ⟨hanswer, hbehind⟩ :=
    (hscan.of_narrows hnarrows (Restriction.allows_of_mem hname)).tokenAt_eq rfl
  refine ⟨hanswer, ?_, ?_, ?_⟩
  · rw [hasked, hbehind]
    rfl
  · rw [hasked]
    rfl
  · rw [hasked, hbehind]
    rfl

/-- Behind a number, a space is skipped and a word is found. Numbers are tried at both offsets if all
patterns are, and at neither if the request is for words or signs. -/
theorem tokenAt_narrow_word :
    let r : Lexicon .backtracking {} :=
      .ofList [("number", "1+"), ("space", " +"), ("word", "(?:1|a)+")]
    let s := reached r ["space"] ['1', ' ', 'a', '1'] [.next ["number"]]
    let t : Token := ⟨2, "word", ⟨2, 4⟩⟩
    let narrow : Restriction := ["sign", "word", "word"]
    (s.tokenAt r s.history.length []).1 = .ok t ∧ t.name ∈ narrow ∧
      (s.tokenAt r s.history.length narrow).1 = .ok t ∧
      (s.tokenAt r s.history.length narrow).2.1.cursor =
        (s.tokenAt r s.history.length []).2.1.cursor := by
  intro r s t narrow
  have hfound : (s.tokenAt r s.history.length []).1 = .ok t := by decide +kernel
  have hname : t.name ∈ narrow := by decide
  obtain ⟨hnarrowed, hcursor, -⟩ := tokenAt_narrow r s hfound hname fun h => absurd rfl h
  exact ⟨hfound, hname, hnarrowed, hcursor⟩

end Tokenizer

end SheetLex
