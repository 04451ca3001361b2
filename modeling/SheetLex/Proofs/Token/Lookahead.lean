import SheetLex.Proofs.Token.Lossless
import SheetLex.Token.Lookahead
import SheetLex.Regex.Engine

/-!
# Looking ahead and taking

Whatever is asked of a lookahead, it asks its tokenizer for the token at its position, and then
stays there or passes the token it was given, or else it starts over (`Move`). Its position
therefore never leaves the history, and the history never goes more than one token further, unless
it did so from the start.

A name that was looked at can be taken. The token was put into the history, or was there before,
under a restriction that holds its name (`Segment.Faithful`), so it may be asked for by this name
whatever other names it was looked at under (`take_of_stored`).
-/

set_option autoImplicit false

namespace SheetLex

variable {engine : RegexEngine} {options : MatchOptions} {patterns : List (Pattern engine options)}

/-! ## Requests -/

namespace Tokenizer

variable {s t : Tokenizer} {index : Nat} {restriction : Restriction}

/-- A token that is scanned has one of the names asked for. -/
theorem Scan.name_mem {token : Token} (h : Scan patterns s index restriction (.ok token) t)
    (hne : restriction ≠ []) : token.name ∈ restriction := by
  cases h with
  | found hskips hwinner hignored hrepeats => exact name_mem_of_firstMatch hwinner hignored hne

/-- A token that is given stands in the history behind the request. -/
theorem Step.getElem?_of_ok {token : Token}
    (h : Step patterns s (.tokenAt index restriction) (some (.ok token)) t) :
    ∃ entry, t.history[index]? = some entry ∧ entry.token = token := by
  obtain ⟨entry, hentry, hanswer, rfl⟩ | ⟨rfl, hscan⟩ | ⟨-, hanswer, -⟩ := h.tokenAt_cases
  · refine ⟨entry, hentry, ?_⟩
    rw [storedToken] at hanswer
    split at hanswer
    · exact (Except.ok.inj hanswer).symm
    · cases hanswer
  · cases hscan with
    | found hskips hwinner hignored hrepeats => exact ⟨_, List.getElem?_concat_length, rfl⟩
  · cases hanswer

/-- A request makes the history no shorter, and longer only by the token asked for. -/
theorem Step.length_history {answer : Except TokenError Token}
    (h : Step patterns s (.tokenAt index restriction) (some answer) t) :
    s.history.length ≤ t.history.length ∧
      t.history.length ≤ max s.history.length (index + 1) := by
  obtain ⟨-, -, -, rfl⟩ | ⟨rfl, hscan⟩ | ⟨-, -, rfl⟩ := h.tokenAt_cases
  · exact ⟨Nat.le_refl _, Nat.le_max_left _ _⟩
  · cases hscan with
    | failed hskips hwinner => exact ⟨Nat.le_refl _, Nat.le_max_left _ _⟩
    | nothing hskips hwinner => exact ⟨Nat.le_refl _, Nat.le_max_left _ _⟩
    | repeated hskips hwinner hignored hrepeats => exact ⟨Nat.le_refl _, Nat.le_max_left _ _⟩
    | found hskips hwinner hignored hrepeats =>
      simp only [List.length_append, List.length_singleton]
      exact ⟨Nat.le_succ _, Nat.le_max_right _ _⟩
  · exact ⟨Nat.le_refl _, Nat.le_max_left _ _⟩

/-- A tokenizer never says that a token has another name than the one asked for. -/
theorem Step.ne_otherKind {e : TokenError}
    (h : Step patterns s (.tokenAt index restriction) (some (.error e)) t)
    (expected found : String) (pos : Nat) : e ≠ .otherKind expected found pos := by
  rintro rfl
  obtain ⟨entry, -, hanswer, -⟩ | ⟨-, hscan⟩ | ⟨-, hanswer, -⟩ := h.tokenAt_cases
  · rw [storedToken] at hanswer
    split at hanswer <;> cases hanswer
  · generalize hanswer : Except.error (TokenError.otherKind expected found pos) = answer at hscan
    cases hscan with
    | failed hskips hwinner =>
      cases hanswer
      exact Bool.false_ne_true (isFault_of_firstMatch hwinner)
    | nothing hskips hwinner =>
      rw [nothingFound] at hanswer
      split at hanswer <;> cases hanswer
    | repeated hskips hwinner hignored hrepeats => cases hanswer
    | found hskips hwinner hignored hrepeats => cases hanswer
  · cases hanswer

end Tokenizer

/-! ## Commands -/

/-- What can be asked of a lookahead. -/
inductive LookaheadCommand where
  | nextKind (kinds : List String)
  | take (kind : String)
  | restart (input : Text)
deriving DecidableEq, Repr

/-- What a lookahead answers: the name of the next token, or the text of the token taken. -/
inductive LookaheadAnswer where
  | kind (answer : Except TokenError (Option String))
  | text (answer : Except TokenError Text)
  | restarted
deriving DecidableEq

/-- Run one command. -/
def LookaheadCommand.run (r : Lexicon engine options) (c : Lookahead) :
    LookaheadCommand → LookaheadAnswer × Lookahead × Lexicon engine options
  | .nextKind kinds =>
    let (answer, c, r) := c.nextKind r kinds
    (.kind answer, c, r)
  | .take kind =>
    let (answer, c, r) := c.take r kind
    (.text answer, c, r)
  | .restart input => (.restarted, c.restart input, r)

namespace Lookahead

open Tokenizer

variable {c d : Lookahead}

/-- Run commands one after the other. -/
def runAll :
    Lexicon engine options → Lookahead → List LookaheadCommand → Lookahead × Lexicon engine options
  | r, c, [] => (c, r)
  | r, c, k :: ks => runAll (k.run r c).2.2 (k.run r c).2.1 ks

/-- What a command does to a lookahead. -/
inductive Move (patterns : List (Pattern engine options)) (c : Lookahead) : Lookahead → Prop where
  /-- The token at the position was asked for, and the position stays. -/
  | look {kinds : Restriction} {answer : Except TokenError Token} {t : Tokenizer} :
      Step patterns c.tokenizer (.tokenAt c.position kinds) (some answer) t →
      Move patterns c { c with tokenizer := t }
  /-- The token at the position was given, and the position passes it. -/
  | pass {kinds : Restriction} {token : Token} {t : Tokenizer} :
      Step patterns c.tokenizer (.tokenAt c.position kinds) (some (.ok token)) t →
      Move patterns c ⟨t, c.position + 1⟩
  /-- The lookahead starts over with another input. -/
  | restart (input : Text) : Move patterns c (c.restart input)

/-- The tokenizer is asked for the token at the position. -/
theorem step_tokenAt (r : Lexicon engine options) (c : Lookahead) (kinds : Restriction) :
    Step r.patterns c.tokenizer (.tokenAt c.position kinds)
      (some (c.tokenizer.tokenAt r c.position kinds).1)
      (c.tokenizer.tokenAt r c.position kinds).2.1 :=
  step_run r c.tokenizer (.tokenAt c.position kinds)

/-- What looking ahead says of the answer to that request. -/
def shownName : Except TokenError Token → Except TokenError (Option String)
  | .ok token => .ok (some token.name)
  | .error e => if e.isMismatch then .ok none else .error e

/-- What taking makes of the answer and of the tokenizer behind the request. -/
def handOver (c : Lookahead) (kind : String) (t : Tokenizer) :
    Except TokenError Token → Except TokenError Text × Lookahead
  | .ok token =>
    if token.name = kind then (.ok (t.textOf token), ⟨t, c.position + 1⟩)
    else (.error (.otherKind kind token.name token.range.start), { c with tokenizer := t })
  | .error e => (.error e, { c with tokenizer := t })

theorem nextKind_eq (r : Lexicon engine options) (c : Lookahead) (kinds : List String) :
    c.nextKind r kinds =
      (shownName (c.tokenizer.tokenAt r c.position kinds).1,
        { c with tokenizer := (c.tokenizer.tokenAt r c.position kinds).2.1 },
        (c.tokenizer.tokenAt r c.position kinds).2.2) := by
  rw [nextKind]
  generalize c.tokenizer.tokenAt r c.position kinds = request
  obtain ⟨answer, t, r'⟩ := request
  cases answer <;> rfl

theorem take_eq (r : Lexicon engine options) (c : Lookahead) (kind : String) :
    c.take r kind =
      ((c.handOver kind (c.tokenizer.tokenAt r c.position [kind]).2.1
          (c.tokenizer.tokenAt r c.position [kind]).1).1,
        (c.handOver kind (c.tokenizer.tokenAt r c.position [kind]).2.1
          (c.tokenizer.tokenAt r c.position [kind]).1).2,
        (c.tokenizer.tokenAt r c.position [kind]).2.2) := by
  rw [take]
  generalize c.tokenizer.tokenAt r c.position [kind] = request
  obtain ⟨answer, t, r'⟩ := request
  cases answer with
  | ok token =>
    simp only [handOver]
    split <;> rfl
  | error e => rfl

/-- Taking asks for the token at the position. If that token has the name asked for, its text is
handed over and the position passes it. All else is an error, and the position stays. -/
theorem take_cases (r : Lexicon engine options) (c : Lookahead) (kind : String) :
    ∃ answer t r', Step r.patterns c.tokenizer (.tokenAt c.position [kind]) (some answer) t ∧
      ((∃ token, answer = .ok token ∧ token.name = kind ∧
          c.take r kind = (.ok (t.textOf token), ⟨t, c.position + 1⟩, r')) ∨
        ∃ e, c.take r kind = (.error e, { c with tokenizer := t }, r') ∧
          ((∃ token, answer = .ok token ∧ token.name ≠ kind) ∨ answer = .error e)) := by
  refine ⟨_, _, (c.tokenizer.tokenAt r c.position [kind]).2.2, step_tokenAt r c [kind], ?_⟩
  rw [take_eq]
  cases (c.tokenizer.tokenAt r c.position [kind]).1 with
  | error e =>
    right
    exact ⟨e, rfl, .inr rfl⟩
  | ok token =>
    rw [handOver]
    by_cases hname : token.name = kind
    · left
      refine ⟨token, rfl, hname, ?_⟩
      rw [if_pos hname]
    · right
      refine ⟨.otherKind kind token.name token.range.start, ?_, .inl ⟨token, rfl, hname⟩⟩
      rw [if_neg hname]

theorem move_nextKind (r : Lexicon engine options) (c : Lookahead) (kinds : List String) :
    Move r.patterns c (c.nextKind r kinds).2.1 := by
  rw [nextKind_eq]
  exact .look (step_tokenAt r c kinds)

theorem move_take (r : Lexicon engine options) (c : Lookahead) (kind : String) :
    Move r.patterns c (c.take r kind).2.1 := by
  obtain ⟨answer, t, r', hstep, ⟨token, rfl, -, htake⟩ | ⟨e, htake, -⟩⟩ := c.take_cases r kind
  · rw [htake]
    exact .pass hstep
  · rw [htake]
    exact .look hstep

/-- Running a command is a move. -/
theorem move_run (r : Lexicon engine options) (c : Lookahead) (k : LookaheadCommand) :
    Move r.patterns c (k.run r c).2.1 := by
  cases k with
  | nextKind kinds => exact move_nextKind r c kinds
  | take kind => exact move_take r c kind
  | restart input => exact .restart input

/-- Running a command compiles patterns and changes none. -/
theorem grows_run (r : Lexicon engine options) (c : Lookahead) (k : LookaheadCommand) :
    r.Grows (k.run r c).2.2 := by
  cases k with
  | nextKind kinds =>
    change r.Grows (c.nextKind r kinds).2.2
    rw [nextKind_eq]
    exact grows_tokenAt r _ _ kinds
  | take kind =>
    change r.Grows (c.take r kind).2.2
    rw [take_eq]
    exact grows_tokenAt r _ _ [kind]
  | restart input => exact .refl r

theorem patterns_runAll (r : Lexicon engine options) (c : Lookahead) (ks : List LookaheadCommand) :
    (runAll r c ks).2.patterns = r.patterns := by
  induction ks generalizing r c with
  | nil => rfl
  | cons k ks ih => rw [runAll, ih, (grows_run r c k).patterns_eq]

/-- What every move preserves holds behind a run. -/
theorem runAll_induction {P : Lookahead → Prop}
    (hmove : ∀ {c d : Lookahead}, P c → Move patterns c d → P d)
    {r : Lexicon engine options} (hr : r.patterns = patterns) (hc : P c)
    (ks : List LookaheadCommand) :
    P (runAll r c ks).1 := by
  induction ks generalizing r c with
  | nil => exact hc
  | cons k ks ih =>
    subst hr
    exact ih (grows_run r c k).patterns_eq (hmove hc (move_run r c k))

/-! ## The position and the history -/

theorem Move.lossless (h : Move patterns c d) (hc : Lossless patterns c.tokenizer) :
    Lossless patterns d.tokenizer := by
  cases h with
  | look hstep => exact hc.step hstep
  | pass hstep => exact hc.step hstep
  | restart input => exact lossless_start rfl rfl

/-- The position never leaves the history. -/
theorem Move.position_le (h : Move patterns c d)
    (hc : c.position ≤ c.tokenizer.history.length) : d.position ≤ d.tokenizer.history.length := by
  cases h with
  | look hstep => exact Nat.le_trans hc hstep.length_history.1
  | pass hstep =>
    -- the token passed is one of the history
    obtain ⟨entry, hentry, -⟩ := hstep.getElem?_of_ok
    exact (List.getElem?_eq_some_iff.1 hentry).1
  | restart input => exact Nat.le_refl 0

/-- The history goes no more than one token further than the position. -/
theorem Move.length_history_le (h : Move patterns c d)
    (hc : c.tokenizer.history.length ≤ c.position + 1) :
    d.tokenizer.history.length ≤ d.position + 1 := by
  cases h with
  | look hstep => exact Nat.le_trans hstep.length_history.2 (Nat.max_le.2 ⟨hc, Nat.le_refl _⟩)
  | pass hstep =>
    have hle := Nat.le_trans hstep.length_history.2 (Nat.max_le.2 ⟨hc, Nat.le_refl _⟩)
    exact Nat.le_succ_of_le hle
  | restart input => exact Nat.zero_le _

/-! ## Looking at a token and taking it -/

/-- A token of the history may be asked for by its own name. -/
theorem storedToken_name {s : Tokenizer} (hs : Lossless patterns s) {entry : HistoryEntry}
    (hentry : entry ∈ s.history) (index : Nat) :
    storedToken entry index [entry.token.name] = .ok entry.token := by
  obtain ⟨⟨-, -, -, hname⟩, -⟩ := hs.faithful_token hentry
  rw [storedToken, if_pos]
  rw [Restriction.isWithin, Bool.or_eq_true]
  by_cases hempty : entry.restriction = []
  · exact .inl (List.isEmpty_iff.2 hempty)
  · right
    rw [List.all_cons, List.all_nil, Bool.and_true]
    exact List.contains_iff_mem.2 (hname hempty)

/-- A token of the history that stands at the position can be taken by its name. -/
theorem take_of_stored (r : Lexicon engine options) (hc : Lossless patterns c.tokenizer)
    {entry : HistoryEntry} (hentry : c.tokenizer.history[c.position]? = some entry) :
    ∃ text, entry.token.range.textIn? c.tokenizer.input.text = some text ∧
      c.take r entry.token.name = (.ok text, { c with position := c.position + 1 }, r) := by
  have hmem : entry ∈ c.tokenizer.history := List.mem_of_getElem? hentry
  obtain ⟨text, htext⟩ := hc.exists_text hmem
  refine ⟨text, htext, ?_⟩
  rw [take, tokenAt_of_getElem? r hentry, storedToken_name hc hmem]
  simp only [if_true, textOf, Token.textIn, htext, Option.getD_some]

/-- A name that was looked at is that of the token that then stands at the position. -/
theorem getElem?_of_nextKind {r : Lexicon engine options} {kinds : List String} {name : String}
    (h : (c.nextKind r kinds).1 = .ok (some name)) :
    ∃ entry, (c.nextKind r kinds).2.1.tokenizer.history[c.position]? = some entry ∧
      entry.token.name = name := by
  have hstep := step_tokenAt r c kinds
  rw [nextKind_eq] at h ⊢
  simp only at h ⊢
  cases hanswer : (c.tokenizer.tokenAt r c.position kinds).1 with
  | ok token =>
    rw [hanswer] at h hstep
    obtain ⟨entry, hentry, htoken⟩ := hstep.getElem?_of_ok
    refine ⟨entry, hentry, ?_⟩
    rw [htoken]
    exact Option.some.inj (Except.ok.inj h)
  | error e =>
    rw [hanswer, shownName] at h
    split at h <;> cases h

/-- If the token at the position has another name than the one asked for, it was in the history
before. -/
theorem getElem?_of_otherKind {r : Lexicon engine options} {kind expected found : String}
    {pos : Nat}
    (h : (c.take r kind).1 = .error (.otherKind expected found pos)) :
    ∃ entry, c.tokenizer.history[c.position]? = some entry := by
  obtain ⟨answer, t, r', hstep, ⟨token, -, -, htake⟩ |
    ⟨e, htake, ⟨token, rfl, hname⟩ | rfl⟩⟩ := c.take_cases r kind
  · rw [htake] at h
    cases h
  · obtain ⟨entry, hentry, -⟩ | ⟨-, hscan⟩ | ⟨-, hbeyond, -⟩ := hstep.tokenAt_cases
    · exact ⟨entry, hentry⟩
    · -- a token that is scanned has the name asked for
      exact absurd (List.mem_singleton.1 (hscan.name_mem (List.cons_ne_nil _ _))) hname
    · cases hbeyond
  · rw [htake] at h
    exact absurd (Except.error.inj h) (hstep.ne_otherKind expected found pos)

theorem position_take_of_error {r : Lexicon engine options} {kind : String} {e : TokenError}
    (h : (c.take r kind).1 = .error e) : (c.take r kind).2.1.position = c.position := by
  obtain ⟨answer, t, r', -, ⟨token, -, -, htake⟩ | ⟨e', htake, -⟩⟩ := c.take_cases r kind
  · rw [htake] at h
    cases h
  · rw [htake]

theorem position_nextKind (r : Lexicon engine options) (c : Lookahead) (kinds : List String) :
    (c.nextKind r kinds).2.1.position = c.position := by
  rw [nextKind_eq]

/-- However a lookahead has been used, over whatever tokenizer: its position does not leave the
history, and the history goes no more than one token further if it was empty at first. If looking
ahead gives a name, taking the token of that name gives the text of the input where the token at the
position lies, and passes the token, while the tokenizer stays as it is. Taking finds another name
than the one asked for only if the token at the position was in the history already. Looking ahead
never moves the position, and neither does taking when it fails. -/
theorem coherent_runAll (r : Lexicon engine options) (ignored : List String) (input : Text)
    (before : List TokenizerCommand) (ks : List LookaheadCommand) :
    let start := Tokenizer.runAll r (ofInput r ignored input) before
    let c := (runAll start.2 (ofTokenizer start.1) ks).1
    let r' := (runAll start.2 (ofTokenizer start.1) ks).2
    c.position ≤ c.tokenizer.history.length ∧
      (start.1.history = [] → c.tokenizer.history.length ≤ c.position + 1) ∧
      (∀ kinds name, (c.nextKind r' kinds).1 = .ok (some name) →
        let seen := c.nextKind r' kinds
        ∃ entry text, seen.2.1.tokenizer.history[c.position]? = some entry ∧
          entry.token.name = name ∧
          entry.token.range.textIn? seen.2.1.tokenizer.input.text = some text ∧
          seen.2.1.take seen.2.2 name =
            (.ok text, ⟨seen.2.1.tokenizer, c.position + 1⟩, seen.2.2)) ∧
      (∀ kind expected found pos, (c.take r' kind).1 = .error (.otherKind expected found pos) →
        ∃ entry, c.tokenizer.history[c.position]? = some entry) ∧
      (∀ kinds, (c.nextKind r' kinds).2.1.position = c.position) ∧
      ∀ kind e, (c.take r' kind).1 = .error e → (c.take r' kind).2.1.position = c.position := by
  intro start c r'
  have hstart : start.2.patterns = r.patterns := Tokenizer.patterns_runAll r _ before
  have hr' : r'.patterns = r.patterns := (patterns_runAll _ _ ks).trans hstart
  have hc : Lossless r.patterns c.tokenizer :=
    runAll_induction (P := fun c => Lossless r.patterns c.tokenizer)
      (fun h hmove => hmove.lossless h) hstart (lossless_reached r ignored input before) ks
  refine ⟨?_, ?_, ?_, ?_, position_nextKind r' c, fun kind e => position_take_of_error⟩
  · exact runAll_induction (P := fun c => c.position ≤ c.tokenizer.history.length)
      (fun h hmove => hmove.position_le h) hstart (Nat.zero_le _) ks
  · intro hempty
    apply runAll_induction (P := fun c => c.tokenizer.history.length ≤ c.position + 1)
      (fun h hmove => hmove.length_history_le h) hstart _ ks
    rw [ofTokenizer, hempty]
    exact Nat.zero_le _
  · intro kinds name hname seen
    obtain ⟨entry, hentry, rfl⟩ := getElem?_of_nextKind hname
    have hposition : seen.2.1.position = c.position := position_nextKind r' c kinds
    have hseen : Lossless r.patterns seen.2.1.tokenizer :=
      (hr' ▸ move_nextKind r' c kinds).lossless hc
    rw [← hposition] at hentry
    obtain ⟨text, htext, htake⟩ := take_of_stored seen.2.2 hseen hentry
    rw [hposition] at hentry htake
    exact ⟨entry, text, hentry, rfl, htext, htake⟩
  · intro kind expected found pos
    exact getElem?_of_otherKind

/-- Looking for a colon shows the word that stands in the history, and the word can be taken. Behind
it the colon is seen and taken. -/
theorem coherent_runAll_colon :
    let r : Lexicon .backtracking {} := .ofList [("word", "a+"), ("colon", ":")]
    let start := Tokenizer.runAll r (ofInput r [] ['a', ':']) [.next []]
    let run := runAll start.2 (ofTokenizer start.1) [.nextKind ["colon"], .take "word"]
    let seen := run.1.nextKind run.2 ["word", "colon"]
    seen.1 = .ok (some "colon") ∧ run.1.position = 1 ∧
      ∃ text, seen.2.1.take seen.2.2 "colon" = (.ok text, ⟨seen.2.1.tokenizer, 2⟩, seen.2.2) := by
  intro r start run seen
  have hname : seen.1 = .ok (some "colon") := by decide +kernel
  have hposition : run.1.position = 1 := by decide +kernel
  have hcoherent := coherent_runAll r [] ['a', ':'] [.next []] [.nextKind ["colon"], .take "word"]
  obtain ⟨entry, text, -, -, -, htake⟩ := hcoherent.2.2.1 ["word", "colon"] "colon" hname
  refine ⟨hname, hposition, text, ?_⟩
  rw [htake, hposition]

end Lookahead

end SheetLex
