import SheetLex.Proofs.Token.Transparency
import SheetLex.Regex.Engine

/-!
# Scanning again what was scanned

A tokenizer that goes back to a token stands at the start of that token, wherever the scan that
found it began. Under the restriction of that scan the same pattern wins there at once, and the
token before it is the same as then, so the token is found again. Every tokenizer that commands lead
to is `Retraceable` in this sense.

Going back to the first token means going back to the start of the input instead, and a scan from
there can find another token if a failed scan had gone past some text before the first token was
found. A tokenizer that has grown by successful scans alone (`Grown`) can go back there as well, and
scanning again all tokens from any one on leads to that tokenizer once more
(`Grown.leads_rescans`).
-/

set_option autoImplicit false

namespace SheetLex.Tokenizer

variable {engine : RegexEngine} {options : MatchOptions} {patterns : List (Pattern engine options)}
variable {s t u : Tokenizer} {restriction : Restriction}

/-! ## One token more -/

/-- The tokenizer behind one token more. -/
def push (s : Tokenizer) (entry : HistoryEntry) : Tokenizer :=
  { s with cursor := entry.token.range.stop, history := s.history ++ [entry] }

theorem tokens_push (s : Tokenizer) (entry : HistoryEntry) :
    (s.push entry).tokens = s.tokens ++ [entry.token] := List.map_append

/-- A scan that finds a token finds it from its own start as well, where the search rests. -/
theorem Scan.of_found {index : Nat} {token : Token}
    (h : Scan patterns s index restriction (.ok token) t) :
    t = s.push ⟨token, restriction⟩ ∧
      Scan patterns { s with cursor := token.range.start } index restriction (.ok token)
        (s.push ⟨token, restriction⟩) := by
  cases h with
  | found hskips hwinner hignored hrepeats =>
    exact ⟨rfl, .found (.stay _) hwinner hignored hrepeats⟩

/-- A scan of the next token is what asking for that token does. -/
theorem Scan.tokenAt_eq {r : Lexicon engine options} {index : Nat}
    {answer : Except TokenError Token}
    (h : Scan r.patterns s index restriction answer t) (hindex : index = s.history.length) :
    (s.tokenAt r index restriction).1 = answer ∧ (s.tokenAt r index restriction).2.1 = t := by
  subst hindex
  rw [tokenAt_length]
  exact h.advance_eq

/-! ## Going back to a token -/

/-- From the start of any token of the history, with the tokens before it, a scan under the
restriction of the token finds the token again. -/
def Retraceable (patterns : List (Pattern engine options)) (s : Tokenizer) : Prop :=
  ∀ (index : Nat) (entry : HistoryEntry), s.history[index]? = some entry →
    Scan patterns
      { s with cursor := entry.token.range.start, history := s.history.take index }
      index entry.restriction (.ok entry.token)
      { s with cursor := entry.token.range.stop, history := s.history.take (index + 1) }

theorem retraceable_of_history_nil (h : s.history = []) : Retraceable patterns s := by
  intro index entry hentry
  rw [h] at hentry
  cases hentry

theorem Retraceable.push (h : Retraceable patterns s) {entry : HistoryEntry}
    (hscan : Scan patterns { s with cursor := entry.token.range.start } s.history.length
      entry.restriction (.ok entry.token) (s.push entry)) :
    Retraceable patterns (s.push entry) := by
  intro index entry' hentry
  rw [Tokenizer.push] at hentry hscan ⊢
  simp only at hentry ⊢
  have hbound := (List.getElem?_eq_some_iff.1 hentry).1
  rw [List.length_append, List.length_singleton] at hbound
  rcases Nat.lt_or_eq_of_le (Nat.le_of_lt_succ hbound) with hindex | rfl
  · -- up to an earlier token nothing has changed
    rw [List.getElem?_append_left hindex] at hentry
    rw [List.take_append_of_le_length (Nat.le_of_lt hindex), List.take_append_of_le_length hindex]
    exact h index entry' hentry
  · rw [List.getElem?_concat_length] at hentry
    obtain rfl := Option.some.inj hentry
    rw [List.take_left, List.take_of_length_le (by simp)]
    exact hscan

theorem Retraceable.scan (h : Retraceable patterns s) {answer : Except TokenError Token}
    (hscan : Scan patterns s s.history.length restriction answer t) : Retraceable patterns t := by
  cases answer with
  | ok token =>
    obtain ⟨rfl, hagain⟩ := hscan.of_found
    exact h.push hagain
  | error e =>
    -- a scan that fails moves the cursor, which the tokens do not depend on
    cases hscan with
    | failed hskips hwinner => exact h
    | nothing hskips hwinner => exact h
    | repeated hskips hwinner hignored hrepeats => exact h

theorem Retraceable.take (h : Retraceable patterns s) (index cursor : Nat) :
    Retraceable patterns { s with cursor, history := s.history.take index } := by
  intro index' entry hentry
  simp only at hentry ⊢
  rw [List.getElem?_take] at hentry
  split at hentry
  · rename_i hindex
    rw [List.take_take, List.take_take, Nat.min_eq_left (Nat.le_of_lt hindex),
      Nat.min_eq_left hindex]
    exact h index' entry hentry
  · cases hentry

/-- No step spoils the tokens that it keeps. -/
theorem Retraceable.step (h : Retraceable patterns s) {c : TokenizerCommand}
    {answer : Option (Except TokenError Token)} (hstep : Step patterns s c answer t) :
    Retraceable patterns t := by
  cases hstep with
  | stored hentry => exact h
  | beyond hindex => exact h
  | scan hscan => exact h.scan hscan
  | next hscan => exact h.scan hscan
  | returnTo hentry => exact h.take _ _
  | stay hindex => exact h
  | restart input => exact retraceable_of_history_nil rfl

theorem retraceable_reached (r : Lexicon engine options) (ignored : List String) (input : Text)
    (cs : List TokenizerCommand) : Retraceable r.patterns (reached r ignored input cs) :=
  runAll_induction (fun h hstep => h.step hstep) rfl (retraceable_of_history_nil rfl) cs

/-- Whatever commands a tokenizer has run, if it goes back to a token behind the first one and is
asked for it under the restriction that it was scanned under, it finds the same token. It then
stands behind the token and has the tokens up to this one in its history. -/
theorem tokenAt_returnTo (r : Lexicon engine options) (ignored : List String) (input : Text)
    (cs : List TokenizerCommand) {index : Nat} {entry : HistoryEntry} (hindex : 0 < index)
    (hentry : (reached r ignored input cs).history[index]? = some entry) :
    let s := reached r ignored input cs
    let r' := (runAll r (ofInput r ignored input) cs).2
    let again := (s.returnTo index).tokenAt r' index entry.restriction
    again.1 = .ok entry.token ∧
      again.2.1 = { s with
        cursor := entry.token.range.stop
        history := s.history.take (index + 1) } := by
  intro s r' again
  have hpatterns : r'.patterns = r.patterns := patterns_runAll r _ cs
  have hscan := retraceable_reached r ignored input cs index entry hentry
  rw [← hpatterns] at hscan
  have hlength : index = (s.history.take index).length := by
    rw [List.length_take, Nat.min_eq_left (Nat.le_of_lt (List.getElem?_eq_some_iff.1 hentry).1)]
  have hreturn : s.returnTo index =
      { s with cursor := entry.token.range.start, history := s.history.take index } := by
    rw [returnTo_of_getElem? hentry, if_neg (Nat.ne_of_gt hindex)]
  have hagain := hscan.tokenAt_eq hlength
  rw [← hreturn] at hagain
  exact hagain

/-- What would be a number is scanned as a word, behind a failed request that went past the space
before it, and scanned as a word once more when the tokenizer has gone back to it. -/
theorem tokenAt_returnTo_word :
    let r : Lexicon .backtracking {} :=
      .ofList [("number", "1+"), ("space", " +"), ("word", "(?:1|a)+")]
    let cs : List TokenizerCommand := [.next [], .next ["sign"], .next ["word"], .next []]
    let s := reached r ["space"] ['a', ' ', '1', 'a'] cs
    let r' := (runAll r (ofInput r ["space"] ['a', ' ', '1', 'a']) cs).2
    s.history[1]? = some ⟨⟨2, "word", ⟨2, 4⟩⟩, ["word"]⟩ ∧
      ((s.returnTo 1).tokenAt r' 1 ["word"]).1 = .ok ⟨2, "word", ⟨2, 4⟩⟩ := by
  intro r cs s r'
  have hentry : s.history[1]? = some ⟨⟨2, "word", ⟨2, 4⟩⟩, ["word"]⟩ := by decide +kernel
  exact ⟨hentry, (tokenAt_returnTo r ["space"] _ cs Nat.one_pos hentry).1⟩

/-! ## Runs of commands -/

/-- Commands lead from one tokenizer to another and have the answers listed, whatever patterns
have been compiled before. -/
def Leads (patterns : List (Pattern engine options)) (s : Tokenizer) (cs : List TokenizerCommand)
    (answers : List (Option (Except TokenError Token))) (t : Tokenizer) : Prop :=
  ∀ r : Lexicon engine options, r.patterns = patterns →
    (runAll r s cs).1 = t ∧ (trace r s cs).map Outcome.answer = answers

theorem Leads.append {cs ds : List TokenizerCommand}
    {answers answers' : List (Option (Except TokenError Token))}
    (h : Leads patterns s cs answers t) (h' : Leads patterns t ds answers' u) :
    Leads patterns s (cs ++ ds) (answers ++ answers') u := by
  intro r hr
  obtain ⟨hbehind, hanswers⟩ := h r hr
  obtain ⟨hbehind', hanswers'⟩ := h' (runAll r s cs).2 ((patterns_runAll r s cs).trans hr)
  rw [runAll_append, trace_append, List.map_append, hbehind, hanswers, hanswers']
  exact ⟨hbehind', rfl⟩

theorem Scan.leads {index : Nat} {answer : Except TokenError Token}
    (h : Scan patterns s index restriction answer t) (hindex : index = s.history.length) :
    Leads patterns s [.tokenAt index restriction] [some answer] t := by
  intro r hr
  subst hr
  obtain ⟨hanswer, hbehind⟩ := h.tokenAt_eq hindex
  exact ⟨hbehind, congrArg (fun a => [some a]) hanswer⟩

/-- Ask again for the token with the index given and for those behind it, each under the
restriction that it was scanned under. -/
def rescans (history : List HistoryEntry) (index : Nat) : List TokenizerCommand :=
  (history.zipIdx.drop index).map fun (entry, i) => .tokenAt i entry.restriction

theorem rescans_length (history : List HistoryEntry) : rescans history history.length = [] := by
  rw [rescans, List.drop_eq_nil_of_le (by simp), List.map_nil]

theorem rescans_concat {history : List HistoryEntry} {index : Nat} (h : index ≤ history.length)
    (entry : HistoryEntry) :
    rescans (history ++ [entry]) index =
      rescans history index ++ [.tokenAt history.length entry.restriction] := by
  rw [rescans, rescans, List.zipIdx_append, List.drop_append_of_le_length (by simpa using h),
    List.map_append, Nat.zero_add]
  rfl

/-! ## Tokenizers that have grown by scans -/

/-- Scans that have found tokens, and nothing else, lead from the first tokenizer to the second. -/
inductive Grown (patterns : List (Pattern engine options)) (s : Tokenizer) : Tokenizer → Prop where
  | start : Grown patterns s s
  | found {t u : Tokenizer} {restriction : Restriction} {token : Token} : Grown patterns s t →
      Scan patterns t t.history.length restriction (.ok token) u → Grown patterns s u

/-- Without a token there was no scan. -/
theorem Grown.eq_of_history_nil (h : Grown patterns s t) (hnil : t.history = []) : t = s := by
  cases h with
  | start => rfl
  | found hgrown hscan =>
    obtain ⟨rfl, -⟩ := hscan.of_found
    simp [Tokenizer.push] at hnil

/-- Going back to an earlier token does not depend on the last one. -/
theorem returnTo_push {index : Nat} (h : index < s.history.length) (entry : HistoryEntry) :
    (s.push entry).returnTo index = s.returnTo index := by
  rw [returnTo, returnTo, push]
  simp only [List.getElem?_append_left h, List.getElem?_eq_getElem h,
    List.take_append_of_le_length (Nat.le_of_lt h)]

/-- Going back to the last token. -/
theorem returnTo_push_length (s : Tokenizer) (entry : HistoryEntry) :
    (s.push entry).returnTo s.history.length =
      { s with cursor := if s.history.length = 0 then 0 else entry.token.range.start } := by
  have hlast : (s.push entry).history[s.history.length]? = some entry :=
    List.getElem?_concat_length
  rw [returnTo_of_getElem? hlast, push]
  simp only [List.take_left]

/-- A tokenizer that has grown from the start of its input goes back to any of its tokens and, by
scanning that token and those behind it again, comes to where it was. -/
theorem Grown.leads_rescans (h : Grown patterns s t) (hcursor : s.cursor = 0)
    (hhistory : s.history = []) {index : Nat} (hindex : index < t.history.length) :
    Leads patterns (t.returnTo index) (rescans t.history index)
      ((t.tokens.drop index).map fun token => some (.ok token)) t := by
  induction h with
  | start =>
    rw [hhistory] at hindex
    exact absurd hindex (Nat.not_lt_zero index)
  | @found t u restriction token hgrown hscan ih =>
    obtain ⟨rfl, hagain⟩ := hscan.of_found
    have hlength : t.tokens.length = t.history.length := List.length_map _
    have hbound : index ≤ t.history.length := by
      rw [Tokenizer.push, List.length_append] at hindex
      exact Nat.le_of_lt_succ hindex
    have hrescans : rescans (t.push ⟨token, restriction⟩).history index =
        rescans t.history index ++ [.tokenAt t.history.length restriction] :=
      rescans_concat hbound _
    rw [hrescans, tokens_push, List.drop_append_of_le_length (hlength ▸ hbound), List.map_append]
    rcases Nat.lt_or_eq_of_le hbound with hlt | rfl
    · -- the scans before the last one lead to where that one began
      rw [returnTo_push hlt]
      exact (ih hlt).append (hscan.leads rfl)
    · rw [rescans_length, ← hlength, List.drop_length, hlength, returnTo_push_length]
      by_cases hempty : t.history.length = 0
      · -- the only token is scanned from the start of the input, as it was
        obtain rfl := hgrown.eq_of_history_nil (List.eq_nil_of_length_eq_zero hempty)
        rw [if_pos hempty, ← hcursor]
        exact hscan.leads rfl
      · -- the last token is scanned from its own start
        rw [if_neg hempty]
        exact hagain.leads rfl

theorem Grown.step (h : Grown patterns s t) {c : TokenizerCommand} {token : Token}
    (hstep : Step patterns t c (some (.ok token)) u) : Grown patterns s u := by
  generalize hanswer : (some (.ok token) : Option (Except TokenError Token)) = answer at hstep
  cases hstep with
  | stored hentry => exact h
  | beyond hindex => cases hanswer
  | scan hscan =>
    cases hanswer
    exact h.found hscan
  | next hscan =>
    cases hanswer
    exact h.found hscan
  | returnTo hentry => cases hanswer
  | stay hindex => cases hanswer
  | restart input => cases hanswer

/-- Whether the command gave a token. -/
def Outcome.givesToken (o : Outcome) : Bool :=
  match o.answer with
  | some (.ok _) => true
  | _ => false

/-- Commands that all give tokens are scans that find them, or requests for stored ones. -/
theorem Grown.runAll (h : Grown patterns s t) {r : Lexicon engine options}
    (hr : r.patterns = patterns) {cs : List TokenizerCommand}
    (hcs : ∀ o ∈ trace r t cs, o.givesToken = true) :
    Grown patterns s (Tokenizer.runAll r t cs).1 := by
  induction cs generalizing r t with
  | nil => exact h
  | cons c cs ih =>
    have hstep : Step patterns t c (c.run r t).1 (c.run r t).2.1 := hr ▸ step_run r t c
    have hfirst := hcs _ List.mem_cons_self
    refine ih ?_ ((patterns_run r t c).trans hr) fun o ho => hcs o (List.mem_cons_of_mem _ ho)
    rw [Outcome.givesToken] at hfirst
    split at hfirst
    · rename_i token hanswer
      simp only at hanswer
      rw [hanswer] at hstep
      exact h.step hstep
    · cases hfirst

/-- A tokenizer that is new or has just started over. -/
inductive Fresh (r : Lexicon engine options) : Tokenizer → Prop where
  | ofInput (ignored : List String) (input : Text) : Fresh r (ofInput r ignored input)
  | restart (s : Tokenizer) (input : Text) : Fresh r (s.restart input)

theorem Fresh.at_start {r : Lexicon engine options} (h : Fresh r s) :
    s.cursor = 0 ∧ s.history = [] := by
  cases h with
  | ofInput ignored input => exact ⟨rfl, rfl⟩
  | restart s input => exact ⟨rfl, rfl⟩

/-- A tokenizer that was new or had just started over, and has since run commands that all gave
tokens, can go back to any of its tokens, the first included: the history then holds the tokens
before that one, and the cursor stands where that one starts, or at the start of the input for the
first. If it is then asked once more for that token and those behind it, each under the restriction
that it was scanned under, it gives the same tokens and is in the end what it was, its history and
its cursor included. -/
theorem runAll_rescans {r : Lexicon engine options} {start : Tokenizer} (hstart : Fresh r start)
    {cs : List TokenizerCommand} (hcs : ∀ o ∈ trace r start cs, o.givesToken = true) {index : Nat}
    (hindex : index < (runAll r start cs).1.history.length) :
    let s := (runAll r start cs).1
    let r' := (runAll r start cs).2
    let again := TokenizerCommand.returnTo index :: rescans s.history index
    (s.returnTo index).history = s.history.take index ∧
      (∃ entry, s.history[index]? = some entry ∧
        (s.returnTo index).cursor = if index = 0 then 0 else entry.token.range.start) ∧
      (trace r' s again).map Outcome.answer =
        none :: (s.tokens.drop index).map (fun token => some (.ok token)) ∧
      (runAll r' s again).1 = s := by
  intro s r' again
  obtain ⟨hcursor, hhistory⟩ := hstart.at_start
  have hgrown : Grown r.patterns start s := Grown.start.runAll rfl hcs
  have hr' : r'.patterns = r.patterns := patterns_runAll r start cs
  obtain ⟨hbehind, hanswers⟩ := hgrown.leads_rescans hcursor hhistory hindex r' hr'
  have hentry : s.history[index]? = some s.history[index] := List.getElem?_eq_getElem hindex
  have hreturn := returnTo_of_getElem? hentry
  refine ⟨?_, ⟨s.history[index], hentry, ?_⟩, ?_, hbehind⟩
  · rw [hreturn]
  · rw [hreturn]
  · exact congrArg (List.cons none) hanswers

/-- Behind a restart, patterns that overlap, space before the first token, a token that is asked
for twice, and an empty token at the end. -/
theorem runAll_rescans_overlapping :
    let r : Lexicon .backtracking {} :=
      .ofList [("b", "b"), ("space", " +"), ("any", "a*"), ("word", "(?:a|b)+")]
    let start := (ofInput r ["space"] ['b']).restart [' ', 'b', 'a', ' ', 'a']
    let cs : List TokenizerCommand := [.next ["word"], .next [], .tokenAt 0 [], .tokenAt 2 ["any"]]
    let s := (runAll r start cs).1
    s.tokens = [⟨3, "word", ⟨1, 3⟩⟩, ⟨2, "any", ⟨4, 5⟩⟩, ⟨2, "any", ⟨5, 5⟩⟩] ∧
      (s.returnTo 0).history = [] ∧ (s.returnTo 0).cursor = 0 ∧
      (runAll (runAll r start cs).2 s (.returnTo 0 :: rescans s.history 0)).1 = s := by
  intro r start cs s
  have hcs : ∀ o ∈ trace r start cs, o.givesToken = true := by decide +kernel
  have htokens : s.tokens = [⟨3, "word", ⟨1, 3⟩⟩, ⟨2, "any", ⟨4, 5⟩⟩, ⟨2, "any", ⟨5, 5⟩⟩] := by
    decide +kernel
  have hindex : 0 < s.history.length := by
    have hlength := congrArg List.length htokens
    rw [tokens, List.length_map] at hlength
    rw [hlength]
    decide
  have hstart : Fresh r start := .restart _ _
  obtain ⟨hhistory, ⟨entry, -, hcursor⟩, -, hbehind⟩ := runAll_rescans hstart hcs hindex
  exact ⟨htokens, hhistory.trans List.take_zero, hcursor.trans (if_pos rfl), hbehind⟩

end SheetLex.Tokenizer
