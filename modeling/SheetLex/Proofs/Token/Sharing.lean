import SheetLex.Proofs.Token.Lookahead
import SheetLex.Regex.Engine

/-!
# Sharing a lexicon

Any number of readers can share a lexicon, among them copies of others. Whatever they are asked, in
whatever order, and whenever all patterns are compiled in between, each of them is what it would
have become alone, over a lexicon made anew, and gives the answers that it would have given there
(`readers_eq_replay`).

A reader leaves its mark on the lexicon: patterns that it tries are compiled, or found not to
compile, and the outcome is kept for all. It cannot be told from one made anew
(`Pattern.eq_ofSource`), and nothing else in the lexicon changes (`Lexicon.Grows`). What a reader
does depends on the patterns alone (`ReaderCommand.run_congr`), and so does which of them it tries
(`ReaderCommand.run_mono`).
-/

set_option autoImplicit false

namespace SheetLex

variable {engine : RegexEngine} {options : MatchOptions}

/-! ## Lexicons made anew -/

/-- A pattern is settled by its name and its source. Its compiled form, or the diagnostic in its
place, is what the engine makes of the source, whoever has asked for it first. -/
theorem Pattern.eq_ofSource (p : Pattern engine options) : p = .ofSource p.name p.source := by
  obtain ⟨name, source, matcher, hget⟩ := p
  obtain rfl : matcher = Thunk.mk fun _ => engine.compile options source := Thunk.ext hget
  rfl

namespace Lexicon

/-- The lexicon with all patterns made anew from their sources, none of them compiled. -/
def anew (r : Lexicon engine options) : Lexicon engine options where
  patterns := r.patterns.map fun p => .ofSource p.name p.source

theorem patterns_anew (r : Lexicon engine options) : r.anew.patterns = r.patterns := by
  rw [anew]
  simp only [← Pattern.eq_ofSource, List.map_id']

theorem grows_anew (r : Lexicon engine options) : r.anew.Grows r := by
  refine ⟨r.patterns_anew.symm, ?_⟩
  intro rank hrank
  cases hrank

end Lexicon

/-! ## Tokenizers and lookaheads -/

namespace Tokenizer

/-- What a command does depends on the patterns alone, not on which of them are compiled. -/
theorem run_congr {r r' : Lexicon engine options} (h : r'.patterns = r.patterns) (s : Tokenizer)
    (k : TokenizerCommand) :
    (k.run r' s).1 = (k.run r s).1 ∧ (k.run r' s).2.1 = (k.run r s).2.1 := by
  have hstep := step_run r' s k
  rw [h] at hstep
  obtain ⟨hanswer, hbehind⟩ := hstep.run_eq
  exact ⟨hanswer.symm, hbehind.symm⟩

theorem tokenAt_congr {r r' : Lexicon engine options} (h : r'.patterns = r.patterns) (s : Tokenizer)
    (index : Nat) (restriction : Restriction) :
    (s.tokenAt r' index restriction).1 = (s.tokenAt r index restriction).1 ∧
      (s.tokenAt r' index restriction).2.1 = (s.tokenAt r index restriction).2.1 := by
  obtain ⟨hanswer, hbehind⟩ := run_congr h s (.tokenAt index restriction)
  exact ⟨Option.some.inj hanswer, hbehind⟩

theorem tokenAt_mono {r r' : Lexicon engine options} (h : r.Grows r') (s : Tokenizer) (index : Nat)
    (restriction : Restriction) :
    (s.tokenAt r index restriction).2.2.Grows (s.tokenAt r' index restriction).2.2 := by
  rw [tokenAt, tokenAt]
  cases s.history[index]? with
  | some entry => exact h
  | none =>
    by_cases hindex : index = s.history.length
    · simp only [if_pos hindex, lexicon_advance, h.patterns_eq]
      exact h.markAttempted _
    · simp only [if_neg hindex]
      exact h

/-- A command over a lexicon with more patterns compiled leaves more of them compiled. -/
theorem run_mono {r r' : Lexicon engine options} (h : r.Grows r') (s : Tokenizer)
    (k : TokenizerCommand) :
    (k.run r s).2.2.Grows (k.run r' s).2.2 := by
  cases k with
  | tokenAt index restriction => exact tokenAt_mono h s index restriction
  | next restriction => exact tokenAt_mono h s _ restriction
  | returnTo index => exact h
  | restart input => exact h

theorem ofInput_congr {r r' : Lexicon engine options} (h : r'.patterns = r.patterns)
    (ignored : List String) (input : Text) :
    ofInput r' ignored input = ofInput r ignored input := by
  have hrank : r'.rank? = r.rank? := by
    funext name
    rw [Lexicon.rank?, h, Lexicon.rank?]
  rw [ofInput, hrank, ofInput]

end Tokenizer

namespace Lookahead

theorem nextKind_congr {r r' : Lexicon engine options} (h : r'.patterns = r.patterns)
    (c : Lookahead) (kinds : List String) :
    (c.nextKind r' kinds).1 = (c.nextKind r kinds).1 ∧
      (c.nextKind r' kinds).2.1 = (c.nextKind r kinds).2.1 := by
  obtain ⟨hanswer, hbehind⟩ := Tokenizer.tokenAt_congr h c.tokenizer c.position kinds
  rw [nextKind_eq, nextKind_eq, hanswer, hbehind]
  exact ⟨rfl, rfl⟩

theorem take_congr {r r' : Lexicon engine options} (h : r'.patterns = r.patterns) (c : Lookahead)
    (kind : String) :
    (c.take r' kind).1 = (c.take r kind).1 ∧ (c.take r' kind).2.1 = (c.take r kind).2.1 := by
  obtain ⟨hanswer, hbehind⟩ := Tokenizer.tokenAt_congr h c.tokenizer c.position [kind]
  rw [take_eq, take_eq, hanswer, hbehind]
  exact ⟨rfl, rfl⟩

theorem run_congr {r r' : Lexicon engine options} (h : r'.patterns = r.patterns) (c : Lookahead)
    (k : LookaheadCommand) :
    (k.run r' c).1 = (k.run r c).1 ∧ (k.run r' c).2.1 = (k.run r c).2.1 := by
  cases k with
  | nextKind kinds =>
    obtain ⟨hanswer, hbehind⟩ := nextKind_congr h c kinds
    exact ⟨congrArg LookaheadAnswer.kind hanswer, hbehind⟩
  | take kind =>
    obtain ⟨hanswer, hbehind⟩ := take_congr h c kind
    exact ⟨congrArg LookaheadAnswer.text hanswer, hbehind⟩
  | restart input => exact ⟨rfl, rfl⟩

theorem run_mono {r r' : Lexicon engine options} (h : r.Grows r') (c : Lookahead)
    (k : LookaheadCommand) :
    (k.run r c).2.2.Grows (k.run r' c).2.2 := by
  cases k with
  | nextKind kinds =>
    change (c.nextKind r kinds).2.2.Grows (c.nextKind r' kinds).2.2
    rw [nextKind_eq, nextKind_eq]
    exact Tokenizer.tokenAt_mono h _ _ kinds
  | take kind =>
    change (c.take r kind).2.2.Grows (c.take r' kind).2.2
    rw [take_eq, take_eq]
    exact Tokenizer.tokenAt_mono h _ _ [kind]
  | restart input => exact h

end Lookahead

/-! ## Readers -/

/-- What can be asked of a reader: what its tokenizer can be asked, what can be asked of the
lookahead over it, and to read from the first token on. -/
inductive ReaderCommand where
  | tokenizer (k : TokenizerCommand)
  | lookahead (k : LookaheadCommand)
  | fromFirst
deriving DecidableEq, Repr

/-- What a reader answers. -/
inductive ReaderAnswer where
  | tokenizer (answer : Option (Except TokenError Token))
  | lookahead (answer : LookaheadAnswer)
  | atFirst
deriving DecidableEq

namespace ReaderCommand

/-- Run one command. -/
def run (r : Lexicon engine options) (c : Lookahead) :
    ReaderCommand → ReaderAnswer × Lookahead × Lexicon engine options
  | .tokenizer k =>
    let (answer, t, r) := k.run r c.tokenizer
    (.tokenizer answer, { c with tokenizer := t }, r)
  | .lookahead k =>
    let (answer, c, r) := k.run r c
    (.lookahead answer, c, r)
  | .fromFirst => (.atFirst, .ofTokenizer c.tokenizer, r)

/-- Run commands one after the other. -/
def runAll :
    Lexicon engine options → Lookahead → List ReaderCommand → Lookahead × Lexicon engine options
  | r, c, [] => (c, r)
  | r, c, k :: ks => runAll (k.run r c).2.2 (k.run r c).2.1 ks

theorem grows_run (r : Lexicon engine options) (c : Lookahead) (k : ReaderCommand) :
    r.Grows (k.run r c).2.2 := by
  cases k with
  | tokenizer k => exact Tokenizer.grows_run r c.tokenizer k
  | lookahead k => exact Lookahead.grows_run r c k
  | fromFirst => exact .refl r

/-- What a command does depends on the patterns alone. -/
theorem run_congr {r r' : Lexicon engine options} (h : r'.patterns = r.patterns) (c : Lookahead)
    (k : ReaderCommand) :
    (k.run r' c).1 = (k.run r c).1 ∧ (k.run r' c).2.1 = (k.run r c).2.1 := by
  cases k with
  | tokenizer k =>
    obtain ⟨hanswer, hbehind⟩ := Tokenizer.run_congr h c.tokenizer k
    exact ⟨congrArg ReaderAnswer.tokenizer hanswer,
      congrArg (fun t => { c with tokenizer := t }) hbehind⟩
  | lookahead k =>
    obtain ⟨hanswer, hbehind⟩ := Lookahead.run_congr h c k
    exact ⟨congrArg ReaderAnswer.lookahead hanswer, hbehind⟩
  | fromFirst => exact ⟨rfl, rfl⟩

/-- Which patterns a command compiles depends on the patterns alone. -/
theorem run_mono {r r' : Lexicon engine options} (h : r.Grows r') (c : Lookahead)
    (k : ReaderCommand) :
    (k.run r c).2.2.Grows (k.run r' c).2.2 := by
  cases k with
  | tokenizer k => exact Tokenizer.run_mono h c.tokenizer k
  | lookahead k => exact Lookahead.run_mono h c k
  | fromFirst => exact h

theorem runAll_concat (r : Lexicon engine options) (c : Lookahead) (ks : List ReaderCommand)
    (k : ReaderCommand) :
    runAll r c (ks ++ [k]) = (k.run (runAll r c ks).2 (runAll r c ks).1).2 := by
  induction ks generalizing r c with
  | nil => rfl
  | cons next ks ih =>
    rw [List.cons_append, runAll, ih, runAll]

end ReaderCommand

/-! ## Sessions -/

/-- The readers that share a lexicon. -/
structure Session (engine : RegexEngine) (options : MatchOptions) where
  lexicon : Lexicon engine options
  readers : List Lookahead := []

/-- What can happen in a session. Readers are numbered in the order in which they enter. -/
inductive SessionCommand where
  /-- A new reader enters, at the start of an input. -/
  | enter (ignored : List String) (input : Text)
  /-- A copy of a reader enters. -/
  | copy (reader : Nat)
  /-- A reader is asked something. -/
  | ask (reader : Nat) (k : ReaderCommand)
  /-- All patterns are compiled. -/
  | prepareAll
deriving DecidableEq, Repr

/-- Run one command. The answer is that of the reader asked, if there is one. -/
def SessionCommand.run (session : Session engine options) :
    SessionCommand → Option ReaderAnswer × Session engine options
  | .enter ignored input =>
    let entering := Lookahead.ofTokenizer (.ofInput session.lexicon ignored input)
    (none, { session with readers := session.readers ++ [entering] })
  | .copy reader =>
    (none, { session with readers := session.readers ++ session.readers[reader]?.toList })
  | .ask reader k =>
    match session.readers[reader]? with
    | some c =>
      let (answer, c, lexicon) := k.run session.lexicon c
      (some answer, { lexicon, readers := session.readers.set reader c })
    | none => (none, session)
  | .prepareAll => (none, { session with lexicon := session.lexicon.prepareAll.2 })

/-- Run commands one after the other. -/
def Session.runAll (session : Session engine options) (ks : List SessionCommand) :
    Session engine options :=
  ks.foldl (fun session k => (k.run session).2) session

/-- What a reader has been through: what it was made for, and what it was asked. For a copy,
this is what the reader copied had been through, and then what the copy was asked. -/
structure Story where
  ignored : List String
  input : Text
  commands : List ReaderCommand := []
deriving DecidableEq, Repr

/-- The reader alone over a lexicon, at the end of its story. -/
def Story.replay (r : Lexicon engine options) (story : Story) :
    Lookahead × Lexicon engine options :=
  ReaderCommand.runAll r (.ofTokenizer (.ofInput r story.ignored story.input)) story.commands

/-- The story of a reader that is asked one thing more. -/
def Story.extend (story : Story) (k : ReaderCommand) : Story :=
  { story with commands := story.commands ++ [k] }

/-- The stories of the readers of a session, behind a command. -/
def SessionCommand.tell (stories : List Story) : SessionCommand → List Story
  | .enter ignored input => stories ++ [{ ignored, input }]
  | .copy reader => stories ++ stories[reader]?.toList
  | .ask reader k => stories.modify reader fun story => story.extend k
  | .prepareAll => stories

/-- The stories of the readers of a session. -/
def stories (ks : List SessionCommand) : List Story := ks.foldl SessionCommand.tell []

/-- A copy starts with the story of the reader copied, and then has its own. -/
example (ignored : List String) (input : Text) (first second : ReaderCommand) :
    stories [.enter ignored input, .ask 0 first, .prepareAll, .copy 0, .ask 1 second] =
      [⟨ignored, input, [first]⟩, ⟨ignored, input, [first, second]⟩] := rfl

/-! ## Every reader is as if alone -/

theorem SessionCommand.grows_run (session : Session engine options) (k : SessionCommand) :
    session.lexicon.Grows (k.run session).2.lexicon := by
  cases k with
  | enter ignored input => exact .refl _
  | copy reader => exact .refl _
  | ask reader k =>
    rw [run]
    cases session.readers[reader]? with
    | some c => exact ReaderCommand.grows_run session.lexicon c k
    | none => exact .refl _
  | prepareAll => exact session.lexicon.grows_markAttempted _

theorem Session.grows_runAll (session : Session engine options) (ks : List SessionCommand) :
    session.lexicon.Grows (session.runAll ks).lexicon := by
  induction ks generalizing session with
  | nil => exact .refl _
  | cons k ks ih => exact (k.grows_run session).trans (ih _)

theorem Story.replay_extend (r : Lexicon engine options) (story : Story) (k : ReaderCommand) :
    (story.extend k).replay r = (k.run (story.replay r).2 (story.replay r).1).2 :=
  ReaderCommand.runAll_concat r _ story.commands k

/-- The readers of a session are what their stories make of each of them alone, over another
lexicon with the same patterns. The patterns that are compiled there are compiled in the session
as well. -/
structure Session.Replays (session : Session engine options) (r : Lexicon engine options)
    (told : List Story) : Prop where
  start : r.Grows session.lexicon
  readers_eq : session.readers = told.map fun story => (story.replay r).1
  grows : ∀ story ∈ told, (story.replay r).2.Grows session.lexicon

namespace Session.Replays

variable {session : Session engine options} {r : Lexicon engine options} {told : List Story}
  {reader : Nat}
variable {story : Story}

theorem getElem?_readers (h : session.Replays r told) (reader : Nat) :
    session.readers[reader]? = told[reader]?.map fun story => (story.replay r).1 := by
  rw [h.readers_eq, List.getElem?_map]

/-- A reader that is asked something answers and behaves as it does alone. -/
theorem run_congr (h : session.Replays r told) (hstory : story ∈ told) (k : ReaderCommand) :
    (k.run session.lexicon (story.replay r).1).1 =
        (k.run (story.replay r).2 (story.replay r).1).1 ∧
      (k.run session.lexicon (story.replay r).1).2.1 = ((story.extend k).replay r).1 := by
  rw [Story.replay_extend]
  exact ReaderCommand.run_congr (h.grows story hstory).patterns_eq _ k

theorem answer_eq (h : session.Replays r told) (hstory : told[reader]? = some story)
    (k : ReaderCommand) :
    ((SessionCommand.ask reader k).run session).1 =
      some (k.run (story.replay r).2 (story.replay r).1).1 := by
  have hreader := h.getElem?_readers reader
  rw [hstory, Option.map_some] at hreader
  rw [SessionCommand.run, hreader]
  exact congrArg some (h.run_congr (List.mem_of_getElem? hstory) k).1

/-- A new reader has its story before it. -/
theorem enter (h : session.Replays r told) (ignored : List String) (input : Text) :
    ((SessionCommand.enter ignored input).run session).2.Replays r
      ((SessionCommand.enter ignored input).tell told) := by
  have hentering := Tokenizer.ofInput_congr h.start.patterns_eq ignored input
  refine ⟨h.start, ?_, ?_⟩
  · simp only [SessionCommand.run, SessionCommand.tell, hentering, h.readers_eq, List.map_append]
    rfl
  · intro story hstory
    obtain hstory | hstory := List.mem_append.1 hstory
    · exact h.grows story hstory
    · rw [List.mem_singleton.1 hstory]
      exact h.start

theorem copy (h : session.Replays r told) (reader : Nat) :
    ((SessionCommand.copy reader).run session).2.Replays r
      ((SessionCommand.copy reader).tell told) := by
  refine ⟨h.start, ?_, ?_⟩
  · simp only [SessionCommand.run, SessionCommand.tell, h.getElem?_readers, List.map_append]
    rw [h.readers_eq]
    cases told[reader]? <;> rfl
  · intro story hstory
    obtain hstory | hstory := List.mem_append.1 hstory
    · exact h.grows story hstory
    · exact h.grows story (List.mem_of_getElem? (Option.mem_toList.1 hstory))

/-- What one reader is asked leaves the others alone. -/
theorem ask (h : session.Replays r told) (reader : Nat) (k : ReaderCommand) :
    ((SessionCommand.ask reader k).run session).2.Replays r
      ((SessionCommand.ask reader k).tell told) := by
  have hreader := h.getElem?_readers reader
  rw [SessionCommand.tell, List.modify_eq_set_getElem?]
  cases hstory : told[reader]? with
  | none =>
    -- there is no such reader, and nothing happens
    rw [hstory] at hreader
    rw [SessionCommand.run, hreader]
    exact h
  | some story =>
    have hmem := List.mem_of_getElem? hstory
    have hgrows := ReaderCommand.grows_run session.lexicon (story.replay r).1 k
    rw [hstory] at hreader
    rw [SessionCommand.run, hreader]
    refine ⟨h.start.trans hgrows, ?_, ?_⟩
    · change session.readers.set reader (k.run session.lexicon (story.replay r).1).2.1 =
        (told.set reader (story.extend k)).map fun story => (story.replay r).1
      rw [(h.run_congr hmem k).2, h.readers_eq, List.map_set]
    · intro other hother
      obtain hother | rfl := List.mem_or_eq_of_mem_set hother
      · exact (h.grows other hother).trans hgrows
      · rw [Story.replay_extend]
        exact ReaderCommand.run_mono (h.grows story hmem) _ k

theorem prepareAll (h : session.Replays r told) :
    (SessionCommand.prepareAll.run session).2.Replays r (SessionCommand.prepareAll.tell told) := by
  have hgrows := SessionCommand.prepareAll.grows_run session
  refine ⟨h.start.trans hgrows, h.readers_eq, ?_⟩
  intro story hstory
  exact (h.grows story hstory).trans hgrows

/-- Every command keeps the readers what their stories make of them. -/
theorem run (h : session.Replays r told) (k : SessionCommand) :
    (k.run session).2.Replays r (k.tell told) := by
  cases k with
  | enter ignored input => exact h.enter ignored input
  | copy reader => exact h.copy reader
  | ask reader k => exact h.ask reader k
  | prepareAll => exact h.prepareAll

theorem runAll (h : session.Replays r told) (ks : List SessionCommand) :
    (session.runAll ks).Replays r (ks.foldl SessionCommand.tell told) := by
  induction ks generalizing session told with
  | nil => exact h
  | cons k ks ih => exact ih (h.run k)

end Session.Replays

/-- However a lexicon is shared: every reader is what its story makes of it alone over a lexicon
made anew, with the same history and at the same positions, and it answers whatever it is asked as
it does there. The lexicon is the one that the reader has behind it alone, but for more patterns
that are compiled. It was no other at the start, and goes on having more of them compiled. -/
theorem readers_eq_replay (r : Lexicon engine options) (ks : List SessionCommand) :
    let session := Session.runAll { lexicon := r } ks
    session.readers = (stories ks).map (fun story => (story.replay r.anew).1) ∧
      (∀ reader story k, (stories ks)[reader]? = some story →
        ((SessionCommand.ask reader k).run session).1 =
          some (k.run (story.replay r.anew).2 (story.replay r.anew).1).1) ∧
      (∀ story ∈ stories ks, (story.replay r.anew).2.Grows session.lexicon) ∧
      r.Grows session.lexicon ∧
      ∀ ks', session.lexicon.Grows (session.runAll ks').lexicon := by
  intro session
  have hstart : Session.Replays { lexicon := r } r.anew [] := by
    refine ⟨r.grows_anew, rfl, ?_⟩
    intro story hstory
    cases hstory
  have hsession : session.Replays r.anew (stories ks) := hstart.runAll ks
  refine ⟨hsession.readers_eq, ?_, hsession.grows, ?_, session.grows_runAll⟩
  · intro reader story k hstory
    exact hsession.answer_eq hstory k
  · exact Session.grows_runAll { lexicon := r } ks

/-- A reader takes the word and is copied. That the pattern behind the word is not valid was found
by compiling them all, and both of them are told so as the first would have been alone. -/
theorem readers_eq_replay_invalid :
    let r : Lexicon .backtracking {} := .ofList [("word", "a+"), ("group", "(")]
    let k : ReaderCommand := .tokenizer (.next [])
    let answer (message : String) : ReaderAnswer :=
      .tokenizer (some (.error (.invalidPattern "group" message)))
    let session :=
      Session.runAll { lexicon := r } [.enter [] ['a'], .ask 0 k, .prepareAll, .copy 0, .ask 0 k]
    ∃ message, ((SessionCommand.ask 0 k).run session).1 = some (answer message) ∧
      ((SessionCommand.ask 1 k).run session).1 = some (answer message) := by
  intro r k answer session
  obtain ⟨-, hanswers, -⟩ :=
    readers_eq_replay r [.enter [] ['a'], .ask 0 k, .prepareAll, .copy 0, .ask 0 k]
  refine ⟨RegexError.unclosedGroup.message, ?_, ?_⟩
  · rw [hanswers 0 ⟨[], ['a'], [k, k]⟩ k rfl]
    decide +kernel
  · rw [hanswers 1 ⟨[], ['a'], [k]⟩ k rfl]
    decide +kernel

end SheetLex
