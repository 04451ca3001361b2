import SheetLex.Proofs.Token.Retracing
import Mathlib.Data.Finset.Card
import Mathlib.Data.Finset.Prod
import SheetLex.Regex.Engine

/-!
# Tokens that are found more than once

A scan fails if it finds the last token of the history once more. An earlier token it may find
again: where two patterns match no characters at the same offset, a request for each in turn finds
both of them again and again (`tokens_recur`), and the history grows without end.

That is the only way. The tokens of the history lie one behind the other, so a token that recurs is
empty, and so are the tokens between the two; and since a token is what wins under the restriction
that it was scanned under, the token behind the first of the two was scanned under another
restriction than either of them (`recurrence`). Requests under restrictions that let the same names
through find no token twice (`nodup_tokens`). In any case the tokens of an input are bounded
in number, if not the entries of the history (`length_dedup_tokens_le`).
-/

set_option autoImplicit false

namespace SheetLex

variable {engine : RegexEngine} {options : MatchOptions} {patterns : List (Pattern engine options)}

/-! ## The order of tokens -/

namespace Segment

/-- Of two segments the earlier one ends where the later one begins, or before. -/
theorem Consecutive.pairwise {first last : Nat} {segs : List Segment}
    (h : Consecutive first segs last) :
    (∀ seg ∈ segs, first ≤ seg.range.start) ∧
      segs.Pairwise fun a b => a.range.stop ≤ b.range.start := by
  induction segs generalizing first with
  | nil => exact ⟨fun seg hseg => absurd hseg List.not_mem_nil, .nil⟩
  | cons seg segs ih =>
    obtain ⟨hstart, horder, hrest⟩ := h
    obtain ⟨hbehind, hpairwise⟩ := ih hrest
    refine ⟨?_, .cons hbehind hpairwise⟩
    intro other hother
    rcases List.mem_cons.1 hother with rfl | hother
    · exact Nat.le_of_eq hstart.symm
    · have := hbehind other hother
      omega

end Segment

namespace Tokenizer

variable {s : Tokenizer} {i j : Nat} {a b : HistoryEntry}

/-- The tokens of the history lie one behind the other. -/
theorem Lossless.stop_le_start (h : Lossless patterns s) (hij : i < j)
    (ha : s.history[i]? = some a) (hb : s.history[j]? = some b) :
    a.token.range.stop ≤ b.token.range.start := by
  obtain ⟨segs, hsegs, hhistory, -⟩ := h.segments
  have hpairwise : s.history.Pairwise fun a b => a.token.range.stop ≤ b.token.range.start := by
    rw [← hhistory]
    refine hsegs.pairwise.2.filterMap _ ?_
    intro seg seg' horder entry hentry entry' hentry'
    cases seg <;> cases hentry
    cases seg' <;> cases hentry'
    exact horder
  obtain ⟨hi, rfl⟩ := List.getElem?_eq_some_iff.1 ha
  obtain ⟨hj, rfl⟩ := List.getElem?_eq_some_iff.1 hb
  exact List.pairwise_iff_getElem.1 hpairwise i j hi hj hij

theorem Lossless.start_le_stop (h : Lossless patterns s) (ha : s.history[i]? = some a) :
    a.token.range.start ≤ a.token.range.stop :=
  (h.faithful_token (List.mem_of_getElem? ha)).2.1

/-- Two tokens with the same range are empty, and all tokens between them have that range. -/
theorem Lossless.range_eq (h : Lossless patterns s) (hij : i < j) (ha : s.history[i]? = some a)
    (hb : s.history[j]? = some b) (hrange : a.token.range = b.token.range) :
    a.token.isEmpty = true ∧
      ∀ k c, i ≤ k → k ≤ j → s.history[k]? = some c → c.token.range = a.token.range := by
  have hends := h.stop_le_start hij ha hb
  have horder := h.start_le_stop ha
  rw [← hrange] at hends
  refine ⟨beq_iff_eq.2 (Nat.le_antisymm horder hends), ?_⟩
  intro k c hik hkj hc
  rcases Nat.eq_or_lt_of_le hik with rfl | hik
  · rw [ha] at hc
    rw [Option.some.inj hc]
  · rcases Nat.eq_or_lt_of_le hkj with rfl | hkj
    · rw [hb] at hc
      rw [← Option.some.inj hc, hrange]
    · -- in between there is room for empty tokens only
      have hbefore := h.stop_le_start hik ha hc
      have hbehind := h.stop_le_start hkj hc hb
      have hinside := h.start_le_stop hc
      rw [← hrange] at hbehind
      obtain ⟨⟨rank, name, start, stop⟩, restriction⟩ := c
      obtain ⟨⟨rank', name', start', stop'⟩, restriction'⟩ := a
      simp only [ByteRange.mk.injEq] at *
      omega

/-! ## Winners -/

/-- The token that a scan finds is that of the winner at its start, and not the last one. -/
theorem Scan.exists_winner {index : Nat} {restriction : Restriction} {token : Token}
    {t : Tokenizer} (h : Scan patterns s index restriction (.ok token) t) :
    (∃ w, (firstMatch s.ignored restriction s.input token.range.start 0 patterns).1 =
        .ok (some w) ∧ w.rank = token.rank) ∧
      s.repeatsLast token = false := by
  cases h with
  | found hskips hwinner hignored hrepeats => exact ⟨⟨_, hwinner, rfl⟩, hrepeats⟩

/-- A token of the history is what wins at its start under its restriction. -/
theorem Retraceable.exists_winner (h : Retraceable patterns s) (ha : s.history[i]? = some a) :
    ∃ w, (firstMatch s.ignored a.restriction s.input a.token.range.start 0 patterns).1 =
      .ok (some w) ∧ w.rank = a.token.rank := (h i a ha).exists_winner.1

/-- Neighbouring tokens with the same range are of different patterns. -/
theorem Retraceable.rank_ne (h : Retraceable patterns s) (ha : s.history[i]? = some a)
    (hb : s.history[i + 1]? = some b) (hrange : b.token.range = a.token.range) :
    b.token.rank ≠ a.token.rank := by
  intro hrank
  have hlast : (s.history.take (i + 1)).getLast? = some a := by
    rw [List.getLast?_take, if_neg (Nat.succ_ne_zero i), Nat.add_sub_cancel, ha]
    rfl
  -- the scan of the second token would have found the last one once more
  have hrepeats := (h (i + 1) b hb).exists_winner.2
  rw [repeatsLast, hlast] at hrepeats
  simp [hrank, hrange] at hrepeats

/-- Under restrictions that let the same names through the same pattern wins at the same offset. -/
theorem Retraceable.exists_allows_ne (h : Retraceable patterns s) (ha : s.history[i]? = some a)
    (hb : s.history[j]? = some b) (hrange : a.token.range = b.token.range)
    (hrank : a.token.rank ≠ b.token.rank) :
    ∃ name, a.restriction.allows name ≠ b.restriction.allows name := by
  by_contra hsame
  have hallows : ∀ name, a.restriction.allows name = b.restriction.allows name := by
    intro name
    by_contra hname
    exact hsame ⟨name, hname⟩
  obtain ⟨w, hwinner, hw⟩ := h.exists_winner ha
  obtain ⟨w', hwinner', hw'⟩ := h.exists_winner hb
  rw [firstMatch_of_allows (fun _ => rfl) hallows, hrange, hwinner'] at hwinner
  obtain rfl : w' = w := Option.some.inj (Except.ok.inj hwinner)
  exact hrank (hw.symm.trans hw')

/-! ## Recurrence -/

/-- Two entries of the history have the same token: both are empty, as are all between them, at
one offset, and the one that follows the first of them is another token, which was scanned under
another restriction than either. -/
structure Recurs (s : Tokenizer) (i j : Nat) (a b : HistoryEntry) : Prop where
  isEmpty : a.token.isEmpty = true
  range_eq : ∀ k c, i ≤ k → k ≤ j → s.history[k]? = some c → c.token.range = a.token.range
  apart : i + 1 < j
  between : ∃ c, s.history[i + 1]? = some c ∧ c.token.rank ≠ a.token.rank ∧
    (∃ name, c.restriction.allows name ≠ a.restriction.allows name) ∧
    ∃ name, c.restriction.allows name ≠ b.restriction.allows name

/-- A token recurs in no other way. -/
theorem recurs_of_eq (h : Lossless patterns s) (hs : Retraceable patterns s) (hij : i < j)
    (ha : s.history[i]? = some a) (hb : s.history[j]? = some b)
    (hrank : a.token.rank = b.token.rank) (hrange : a.token.range = b.token.range) :
    s.Recurs i j a b := by
  obtain ⟨hempty, hbetween⟩ := h.range_eq hij ha hb hrange
  have hbound : i + 1 < s.history.length :=
    Nat.lt_of_le_of_lt hij (List.getElem?_eq_some_iff.1 hb).1
  have hc := List.getElem?_eq_getElem hbound
  have hcrange := hbetween (i + 1) _ (Nat.le_succ i) hij hc
  have hcrank := hs.rank_ne ha hc hcrange
  refine ⟨hempty, hbetween, ?_, _, hc, hcrank, ?_, ?_⟩
  · apply Nat.lt_of_le_of_ne hij
    rintro rfl
    -- the neighbour would be the token itself
    rw [hb] at hc
    rw [← Option.some.inj hc, hrank] at hcrank
    exact hcrank rfl
  · exact hs.exists_allows_ne hc ha hcrange hcrank
  · exact hs.exists_allows_ne hc hb (hcrange.trans hrange) (hrank ▸ hcrank)

/-- Where all restrictions let the same names through, no token recurs. -/
theorem nodup_tokens (h : Lossless patterns s) (hs : Retraceable patterns s)
    (hsame : ∀ a ∈ s.history, ∀ b ∈ s.history, ∀ name,
      a.restriction.allows name = b.restriction.allows name) : s.tokens.Nodup := by
  rw [tokens, List.Nodup, List.pairwise_map, List.pairwise_iff_getElem]
  intro i j hi hj hij heq
  have ha := List.getElem?_eq_getElem hi
  have hb := List.getElem?_eq_getElem hj
  have hrecurs := recurs_of_eq h hs hij ha hb (congrArg Token.rank heq) (congrArg Token.range heq)
  obtain ⟨c, hc, -, ⟨name, hname⟩, -⟩ := hrecurs.between
  exact hname (hsame c (List.mem_of_getElem? hc) _ (List.getElem_mem hi) name)

/-! ## The number of tokens -/

/-- Tokens of the history with the same pattern and the same start are the same. -/
theorem Lossless.token_eq (h : Lossless patterns s) (ha : a ∈ s.history) (hb : b ∈ s.history)
    (hrank : a.token.rank = b.token.rank) (hstart : a.token.range.start = b.token.range.start) :
    a.token = b.token := by
  obtain ⟨⟨-, hname, ⟨p, hp, hextent⟩, -⟩, horder, -⟩ := h.faithful_token ha
  obtain ⟨⟨-, hname', ⟨q, hq, hextent'⟩, -⟩, horder', -⟩ := h.faithful_token hb
  rw [hrank] at hname hp
  rw [hstart] at hextent
  -- name and extent are those of the pattern
  obtain rfl := Option.some.inj (hp.symm.trans hq)
  have hnames := Option.some.inj (hname.symm.trans hname')
  have hlength := Option.some.inj (Except.ok.inj (hextent.symm.trans hextent'))
  obtain ⟨⟨rank, name, start, stop⟩, restriction⟩ := a
  obtain ⟨⟨rank', name', start', stop'⟩, restriction'⟩ := b
  simp only [ByteRange.length] at *
  subst hrank hstart hnames
  obtain rfl : stop = stop' := by omega
  rfl

/-- The tokens of the history are of so many patterns and start at so many offsets at most. -/
theorem Lossless.length_dedup_tokens_le (h : Lossless patterns s) :
    s.tokens.dedup.length ≤ patterns.length * (s.input.byteLength + 1) := by
  rw [← List.card_toFinset]
  have hcard : (Finset.range patterns.length ×ˢ Finset.range (s.input.byteLength + 1)).card =
      patterns.length * (s.input.byteLength + 1) := by
    rw [Finset.card_product, Finset.card_range, Finset.card_range]
  rw [← hcard]
  apply Finset.card_le_card_of_injOn fun t => (t.rank, t.range.start)
  · intro t ht
    obtain ⟨a, ha, rfl⟩ := List.mem_map.1 (List.mem_toFinset.1 ht)
    obtain ⟨⟨-, -, ⟨p, hp, -⟩, -⟩, horder, hstop⟩ := h.faithful_token ha
    have hrank := (List.getElem?_eq_some_iff.1 hp).1
    have hposition : s.cursor ≤ s.input.byteLength := h.position_le
    simp only [Finset.coe_product, Set.mem_prod, Finset.mem_coe, Finset.mem_range]
    omega
  · intro t ht u hu heq
    obtain ⟨a, ha, rfl⟩ := List.mem_map.1 (List.mem_toFinset.1 ht)
    obtain ⟨b, hb, rfl⟩ := List.mem_map.1 (List.mem_toFinset.1 hu)
    exact h.token_eq ha hb (congrArg Prod.fst heq) (congrArg Prod.snd heq)

/-! ## Runs -/

/-- Whatever commands a tokenizer has run, a token is in its history more than once only as an empty
one among empty ones at one offset, with another token behind its first place that was scanned under
another restriction. Where the restrictions of the history let the same names through, no token is
there twice, and the history is as long as the number of its tokens. That number is bounded, for any
history, by the patterns and the offsets of the input. -/
theorem recurrence (r : Lexicon engine options) (ignored : List String) (input : Text)
    (cs : List TokenizerCommand) :
    let s := reached r ignored input cs
    let bound := r.size * (s.input.byteLength + 1)
    (∀ i j a b, i < j → s.history[i]? = some a → s.history[j]? = some b →
        a.token.rank = b.token.rank → a.token.range = b.token.range → s.Recurs i j a b) ∧
      ((∀ a ∈ s.history, ∀ b ∈ s.history, ∀ name,
          a.restriction.allows name = b.restriction.allows name) →
        s.tokens.Nodup ∧ s.history.length = s.tokens.dedup.length ∧ s.history.length ≤ bound) ∧
      s.tokens.dedup.length ≤ bound := by
  intro s bound
  have h : Lossless r.patterns s := lossless_reached r ignored input cs
  have hs : Retraceable r.patterns s := retraceable_reached r ignored input cs
  have hbound : s.tokens.dedup.length ≤ bound := h.length_dedup_tokens_le
  refine ⟨fun i j a b => recurs_of_eq h hs, ?_, hbound⟩
  intro hsame
  have hnodup := nodup_tokens h hs hsame
  have hlength : s.history.length = s.tokens.dedup.length := by
    rw [hnodup.dedup, tokens, List.length_map]
  exact ⟨hnodup, hlength, hlength ▸ hbound⟩

/-- Two patterns that match no characters where they find none of their own. -/
def gaps : Lexicon .backtracking {} := .ofList [("a", "x*"), ("b", "y*")]

/-- The first of two patterns that match no characters is found again behind the second one. When
only the first one is asked for, it is found with a character and then without any, and no more. -/
theorem recurrence_gaps :
    let s := reached gaps [] [] [.next ["a"], .next ["b"], .next ["a"]]
    let t := reached gaps [] ['x'] [.next ["a"], .next ["a", "a"], .next ["a"]]
    let found : HistoryEntry := ⟨⟨0, "a", ⟨0, 0⟩⟩, ["a"]⟩
    s.history[0]? = some found ∧ s.history[2]? = some found ∧ s.Recurs 0 2 found found ∧
      (∀ a ∈ t.history, ∀ b ∈ t.history, ∀ name,
        a.restriction.allows name = b.restriction.allows name) ∧
      t.tokens.Nodup ∧ t.history.length = t.tokens.dedup.length := by
  intro s t found
  have hfirst : s.history[0]? = some found := by decide +kernel
  have hthird : s.history[2]? = some found := by decide +kernel
  have hhistory : t.history = [⟨⟨0, "a", ⟨0, 1⟩⟩, ["a"]⟩, ⟨⟨0, "a", ⟨1, 1⟩⟩, ["a", "a"]⟩] := by
    decide +kernel
  have hsame : ∀ a ∈ t.history, ∀ b ∈ t.history, ∀ name,
      a.restriction.allows name = b.restriction.allows name := by
    rw [hhistory]
    simp [Restriction.allows]
  have hrecurs := (recurrence gaps [] [] [.next ["a"], .next ["b"], .next ["a"]]).1 0 2 found found
    (by decide) hfirst hthird rfl rfl
  obtain ⟨hnodup, hlength, -⟩ :=
    (recurrence gaps [] ['x'] [.next ["a"], .next ["a", "a"], .next ["a"]]).2.1 hsame
  exact ⟨hfirst, hthird, hrecurs, hsame, hnodup, hlength⟩

/-! ## Requests in turn -/

/-- Ask for the two patterns in turn, so many times. -/
def turns (n : Nat) : List TokenizerCommand :=
  (List.replicate n [.next ["a"], .next ["b"]]).flatten

/-- A request finds its pattern at the start of the empty input, unless that is the last token. -/
theorem next_gaps {r : Lexicon .backtracking {}} (hr : r.patterns = gaps.patterns)
    {history : List HistoryEntry}
    {rank : Nat} {name : String}
    (hwinner : (firstMatch [] [name] (.ofText []) 0 0 gaps.patterns).1 =
      .ok (some ⟨rank, name, 0⟩))
    (hrepeats :
      (⟨[], .ofText [], 0, history⟩ : Tokenizer).repeatsLast ⟨rank, name, ⟨0, 0⟩⟩ = false) :
    ((TokenizerCommand.next [name]).run r ⟨[], .ofText [], 0, history⟩).2.1 =
      ⟨[], .ofText [], 0, history ++ [⟨⟨rank, name, ⟨0, 0⟩⟩, [name]⟩]⟩ := by
  rw [← hr] at hwinner
  have hstep : Step r.patterns ⟨[], .ofText [], 0, history⟩ (.next [name]) _ _ :=
    .next (.found (.stay 0) hwinner rfl hrepeats)
  exact hstep.run_eq.2

/-- Every turn adds two tokens to the history. -/
theorem reached_turns (n : Nat) :
    ∃ history, reached gaps [] [] (turns n) = ⟨[], .ofText [], 0, history⟩ ∧
      history.length = 2 * n ∧
      (⟨[], .ofText [], 0, history⟩ : Tokenizer).repeatsLast ⟨0, "a", ⟨0, 0⟩⟩ = false := by
  induction n with
  | zero => exact ⟨[], rfl, rfl, rfl⟩
  | succ n ih =>
    obtain ⟨history, hreached, hlength, hlast⟩ := ih
    have ha : (firstMatch [] ["a"] (.ofText []) 0 0 gaps.patterns).1 = .ok (some ⟨0, "a", 0⟩) := by
      decide +kernel
    have hb : (firstMatch [] ["b"] (.ofText []) 0 0 gaps.patterns).1 = .ok (some ⟨1, "b", 0⟩) := by
      decide +kernel
    have hpatterns := patterns_runAll gaps (ofInput gaps [] []) (turns n)
    have hturns : turns (n + 1) = turns n ++ [.next ["a"], .next ["b"]] := by
      rw [turns, List.replicate_succ', List.flatten_append, List.flatten_singleton]
      rfl
    rw [reached] at hreached
    rw [hturns, reached, runAll_append, hreached, runAll, next_gaps hpatterns ha hlast, runAll,
      next_gaps ((patterns_run _ _ _).trans hpatterns) hb (by simp [repeatsLast]), runAll]
    refine ⟨_, rfl, ?_, by simp [repeatsLast]⟩
    rw [List.length_append, List.length_append, hlength]
    rfl

/-- A token can be found again, and a history can outgrow every bound: of two patterns that match
no characters, each is found anew behind the other. -/
theorem tokens_recur :
    let s := reached gaps [] [] [.next ["a"], .next ["b"], .next ["a"]]
    s.history = [⟨⟨0, "a", ⟨0, 0⟩⟩, ["a"]⟩, ⟨⟨1, "b", ⟨0, 0⟩⟩, ["b"]⟩, ⟨⟨0, "a", ⟨0, 0⟩⟩, ["a"]⟩] ∧
      ¬ s.tokens.Nodup ∧ s.history.length ≠ s.tokens.dedup.length ∧
      ¬ ∃ bound, ∀ cs, (reached gaps [] [] cs).history.length ≤ bound := by
  intro s
  refine ⟨by decide +kernel, by decide +kernel, by decide +kernel, ?_⟩
  rintro ⟨bound, hbound⟩
  obtain ⟨history, hreached, hlength, -⟩ := reached_turns (bound + 1)
  have hle := hbound (turns (bound + 1))
  rw [hreached, hlength] at hle
  omega

end Tokenizer

end SheetLex
