import Mathlib.Data.List.Induction
import SheetLex.Proofs.Token.Step
import SheetLex.Regex.Engine

/-!
# Recalling stored tokens

A request for a token of the history reads it and changes nothing. It is answered if it names
nothing that the scan of the token was not given, and refused otherwise.

The answer rests on the entry at that place of the history alone. A command neither moves nor
alters an entry, unless it starts over or goes back to the entry or one before it
(`Step.getElem?_of_keeps`), and an entry that is there behind a command was there before, or is the
one that the command has just scanned (`Step.kept_or_scanned`). So the restriction that an entry
remembers is that of the command which scanned its token (`scannedIn_of_getElem?`).
-/

set_option autoImplicit false

namespace SheetLex

/-- Whether a command leaves the token with the index given where it is: it neither starts over
nor goes back to that token or to one before it. -/
def TokenizerCommand.keeps (index : Nat) : TokenizerCommand → Bool
  | .returnTo target => decide (index < target)
  | .restart _ => false
  | _ => true

namespace Tokenizer

variable {engine : RegexEngine} {options : MatchOptions} {patterns : List (Pattern engine options)}
variable {s t : Tokenizer} {c : TokenizerCommand} {index : Nat} {entry : HistoryEntry}
variable {restriction : Restriction} {answer : Except TokenError Token}

/-! ## Single entries of the history -/

/-- A scan adds to the end of the history at most. -/
theorem Scan.history_isPrefix (h : Scan patterns s index restriction answer t) :
    s.history <+: t.history := by
  cases h with
  | found hskips hwinner hignored hrepeats => exact List.prefix_append _ _
  | _ => exact List.prefix_refl _

theorem Scan.getElem?_of_some {number : Nat} (h : Scan patterns s number restriction answer t)
    (hentry : s.history[index]? = some entry) : t.history[index]? = some entry := by
  obtain ⟨rest, hrest⟩ := h.history_isPrefix
  rw [← hrest, List.getElem?_append_left (List.getElem?_eq_some_iff.1 hentry).1, hentry]

/-- An entry behind a scan was there before, or its token is what the scan has found. -/
theorem Scan.kept_or_found {number : Nat} (h : Scan patterns s number restriction answer t)
    (hentry : t.history[index]? = some entry) :
    s.history[index]? = some entry ∨
      s.history.length = index ∧ entry.restriction = restriction ∧ answer = .ok entry.token := by
  cases h with
  | failed hskips hwinner => exact .inl hentry
  | nothing hskips hwinner => exact .inl hentry
  | repeated hskips hwinner hignored hrepeats => exact .inl hentry
  | found hskips hwinner hignored hrepeats =>
    have hbound := (List.getElem?_eq_some_iff.1 hentry).1
    rw [List.length_append, List.length_singleton] at hbound
    rcases Nat.lt_or_eq_of_le (Nat.le_of_lt_succ hbound) with hindex | rfl
    · rw [List.getElem?_append_left hindex] at hentry
      exact .inl hentry
    · rw [List.getElem?_concat_length] at hentry
      obtain rfl := Option.some.inj hentry
      exact .inr ⟨rfl, rfl, rfl⟩

/-- Commands that keep an entry leave it where it is. -/
theorem Step.getElem?_of_keeps {answer : Option (Except TokenError Token)}
    (h : Step patterns s c answer t) (hkeeps : c.keeps index = true)
    (hentry : s.history[index]? = some entry) : t.history[index]? = some entry := by
  cases h with
  | stored hstored => exact hentry
  | beyond hindex => exact hentry
  | scan hscan => exact hscan.getElem?_of_some hentry
  | next hscan => exact hscan.getElem?_of_some hentry
  | returnTo hstored =>
    -- the entry lies before the place that the history is cut at
    rw [List.getElem?_take, if_pos (of_decide_eq_true hkeeps)]
    exact hentry
  | stay hindex => exact hentry
  | restart input => cases hkeeps

/-- An entry that is there behind a command was there before and has been kept, or the command is
the request that has scanned its token. -/
theorem Step.kept_or_scanned {answer : Option (Except TokenError Token)}
    (h : Step patterns s c answer t) (hentry : t.history[index]? = some entry) :
    (s.history[index]? = some entry ∧ c.keeps index = true) ∨
      s.history.length = index ∧
        (c = .tokenAt index entry.restriction ∨ c = .next entry.restriction) ∧
        answer = some (.ok entry.token) := by
  cases h with
  | stored hstored => exact .inl ⟨hentry, rfl⟩
  | beyond hindex => exact .inl ⟨hentry, rfl⟩
  | scan hscan =>
    rcases hscan.kept_or_found hentry with hkept | ⟨rfl, rfl, rfl⟩
    · exact .inl ⟨hkept, rfl⟩
    · exact .inr ⟨rfl, .inl rfl, rfl⟩
  | next hscan =>
    rcases hscan.kept_or_found hentry with hkept | ⟨rfl, rfl, rfl⟩
    · exact .inl ⟨hkept, rfl⟩
    · exact .inr ⟨rfl, .inr rfl, rfl⟩
  | returnTo hstored =>
    rw [List.getElem?_take] at hentry
    split at hentry
    · rename_i hindex
      exact .inl ⟨hentry, decide_eq_true hindex⟩
    · cases hentry
  | stay hindex =>
    have hbound := (List.getElem?_eq_some_iff.1 hentry).1
    exact .inl ⟨hentry, decide_eq_true (Nat.lt_of_lt_of_le hbound hindex)⟩
  | restart input => cases hentry

/-! ## Runs of commands -/

/-- An entry stays where it is over every run of commands that keep it. -/
theorem getElem?_runAll_of_keeps (r : Lexicon engine options) {cs : List TokenizerCommand}
    (hkeeps : ∀ c ∈ cs, c.keeps index = true) (hentry : s.history[index]? = some entry) :
    (runAll r s cs).1.history[index]? = some entry := by
  induction cs generalizing r s with
  | nil => exact hentry
  | cons c cs ih =>
    rw [runAll]
    apply ih
    · exact fun d hd => hkeeps d (List.mem_cons_of_mem c hd)
    · exact (step_run r s c).getElem?_of_keeps (hkeeps c List.mem_cons_self) hentry

/-- Among the commands is a request that has scanned the token of the entry as the one with the
index given, under the restriction of the entry, and all commands behind it have kept the token. -/
def ScannedIn (r : Lexicon engine options) (ignored : List String) (input : Text)
    (cs : List TokenizerCommand) (index : Nat) (entry : HistoryEntry) : Prop :=
  ∃ before c behind, cs = before ++ c :: behind ∧
    (reached r ignored input before).history.length = index ∧
    (c = .tokenAt index entry.restriction ∨ c = .next entry.restriction) ∧
    (c.run (runAll r (ofInput r ignored input) before).2 (reached r ignored input before)).1 =
      some (.ok entry.token) ∧
    ∀ d ∈ behind, d.keeps index = true

/-- The token of every entry was scanned under the restriction that the entry remembers. -/
theorem scannedIn_of_getElem? (r : Lexicon engine options) (ignored : List String) (input : Text)
    {cs : List TokenizerCommand}
    (hentry : (reached r ignored input cs).history[index]? = some entry) :
    ScannedIn r ignored input cs index entry := by
  -- from the end of the run back to the command that has put the entry there
  induction cs using List.reverseRecOn with
  | nil => cases hentry
  | append_singleton cs c ih =>
    rw [reached, runAll_append] at hentry
    have hstep := step_run (runAll r (ofInput r ignored input) cs).2
      (reached r ignored input cs) c
    rcases hstep.kept_or_scanned hentry with ⟨hkept, hkeeps⟩ | ⟨hlength, hrequest, hanswer⟩
    · obtain ⟨before, d, behind, rfl, hlength, hrequest, hanswer, hbehind⟩ := ih hkept
      refine ⟨before, d, behind ++ [c], by simp, hlength, hrequest, hanswer, ?_⟩
      intro e he
      rcases List.mem_append.1 he with he | he
      · exact hbehind e he
      · rw [List.mem_singleton.1 he]
        exact hkeeps
    · refine ⟨cs, c, [], rfl, hlength, hrequest, hanswer, ?_⟩
      intro e he
      cases he

/-! ## Requests -/

theorem Restriction.isWithin_iff {stored : Restriction} :
    restriction.isWithin stored = true ↔
      restriction = [] ∨ stored = [] ∨ ∀ name ∈ restriction, name ∈ stored := by
  rw [Restriction.isWithin, Bool.or_eq_true, List.isEmpty_iff, List.all_eq_true]
  simp only [List.contains_iff_mem]
  constructor
  · exact .inr
  · rintro (rfl | hwithin)
    · right
      intro name hname
      cases hname
    · exact hwithin

/-- The answer that a stored token gives: the token itself, if the request is limited by nothing,
or the scan was limited by nothing, or the scan was given every name of the request. -/
theorem storedToken_eq (entry : HistoryEntry) (index : Nat) (restriction : Restriction) :
    storedToken entry index restriction =
      if restriction = [] ∨ entry.restriction = [] ∨
          ∀ name ∈ restriction, name ∈ entry.restriction then .ok entry.token
      else .error (.restrictionChanged index) := by
  rw [storedToken]
  by_cases h : restriction.isWithin entry.restriction = true
  · rw [if_pos h, if_pos (Restriction.isWithin_iff.1 h)]
  · rw [if_neg h, if_neg (mt Restriction.isWithin_iff.2 h)]

/-- Whatever commands a tokenizer has run, a request for a token of its history changes nothing,
neither in the tokenizer nor in the lexicon. It gives the token if it names nothing, or the token
was scanned under no restriction, or the token was scanned under a restriction with all the names of
the request; otherwise the restriction has changed. Over all further commands that neither start
over nor go back to the token or to one before it, the answer to the request stays the same. -/
theorem tokenAt_recalls (r : Lexicon engine options) (ignored : List String) (input : Text)
    (cs : List TokenizerCommand)
    (hentry : (reached r ignored input cs).history[index]? = some entry)
    (restriction : Restriction) :
    let s := reached r ignored input cs
    let r' := (runAll r (ofInput r ignored input) cs).2
    let answer : Except TokenError Token :=
      if restriction = [] ∨ entry.restriction = [] ∨
          ∀ name ∈ restriction, name ∈ entry.restriction then .ok entry.token
      else .error (.restrictionChanged index)
    ScannedIn r ignored input cs index entry ∧
      s.tokenAt r' index restriction = (answer, s, r') ∧
      ∀ ds : List TokenizerCommand, (∀ d ∈ ds, d.keeps index = true) →
        ((runAll r' s ds).1.tokenAt (runAll r' s ds).2 index restriction).1 = answer := by
  intro s r' answer
  have hanswer : storedToken entry index restriction = answer :=
    storedToken_eq entry index restriction
  refine ⟨scannedIn_of_getElem? r ignored input hentry, ?_, ?_⟩
  · rw [tokenAt_of_getElem? r' hentry, hanswer]
  · intro ds hds
    rw [tokenAt_of_getElem? _ (getElem?_runAll_of_keeps r' hds hentry), hanswer]

/-- A word that was scanned as a word or a sign can be asked for as a word, but not as a number, and
that stays so when the token behind it is given back and the scan after that fails. -/
theorem tokenAt_recalls_word :
    let r : Lexicon .backtracking {} := .ofList [("number", "1+"), ("word", "a+"), ("sign", "!")]
    let cs : List TokenizerCommand := [.next ["word", "sign"], .tokenAt 1 []]
    let ds : List TokenizerCommand := [.returnTo 1, .returnTo 5, .tokenAt 1 ["word"]]
    let s := reached r [] ['a', '1'] cs
    let r' := (runAll r (ofInput r [] ['a', '1']) cs).2
    let t := runAll r' s ds
    s.history[0]? = some ⟨⟨1, "word", ⟨0, 1⟩⟩, ["word", "sign"]⟩ ∧
      (∀ d ∈ ds, d.keeps 0 = true) ∧
      (t.1.tokenAt t.2 0 ["word", "word"]).1 = .ok ⟨1, "word", ⟨0, 1⟩⟩ ∧
      (t.1.tokenAt t.2 0 ["word", "number"]).1 = .error (.restrictionChanged 0) := by
  intro r cs ds s r' t
  have hentry : s.history[0]? = some ⟨⟨1, "word", ⟨0, 1⟩⟩, ["word", "sign"]⟩ := by decide +kernel
  have hds : ∀ d ∈ ds, d.keeps 0 = true := by decide
  refine ⟨hentry, hds, ?_, ?_⟩
  · exact (tokenAt_recalls r [] _ cs hentry ["word", "word"]).2.2 ds hds
  · exact (tokenAt_recalls r [] _ cs hentry ["word", "number"]).2.2 ds hds

end Tokenizer

end SheetLex
