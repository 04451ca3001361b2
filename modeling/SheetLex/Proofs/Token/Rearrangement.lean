import SheetLex.Proofs.Token.Comparison
import SheetLex.Proofs.Token.Recall
import SheetLex.Regex.Engine

/-!
# Rearranged lists of names

A tokenizer is given names in two places: those that it ignores, and those that a request is limited
to. It reads such a list in order to decide whether a pattern is tried, whether a match is skipped,
and whether a stored token may be asked for. None of that depends on the order of the names or on
how often they occur.

So two tokenizers are alike if they ignore the same patterns, and if the restrictions that go with
their tokens have the same names (`Tokenizer.Alike`). Commands that are alike in the same way keep
them alike and get answers that are alike (`Tokenizer.Alike.run`), over every run
(`observe_of_alike`).
-/

set_option autoImplicit false

namespace SheetLex

variable {engine : RegexEngine} {options : MatchOptions}

/-- The lists have the same names, in any order and in any number. -/
def SameNames (names names' : List String) : Prop := ∀ name, name ∈ names ↔ name ∈ names'

/-! ## What is alike -/

/-- The commands are the same, but for the order and the number of the names that they are limited
to. -/
inductive TokenizerCommand.Alike : TokenizerCommand → TokenizerCommand → Prop where
  | tokenAt (index : Nat) {restriction restriction' : Restriction} :
      SameNames restriction restriction' →
      Alike (.tokenAt index restriction) (.tokenAt index restriction')
  | next {restriction restriction' : Restriction} : SameNames restriction restriction' →
      Alike (.next restriction) (.next restriction')
  | returnTo (index : Nat) : Alike (.returnTo index) (.returnTo index)
  | restart (input : Text) : Alike (.restart input) (.restart input)

/-- The answers are the same, or say at the same offset that none of the same names is found. -/
inductive AlikeAnswers : Except TokenError Token → Except TokenError Token → Prop where
  | same (answer : Except TokenError Token) : AlikeAnswers answer answer
  | noMatchAmong (pos : Nat) {restriction restriction' : Restriction} :
      SameNames restriction restriction' →
      AlikeAnswers (.error (.noMatchAmong pos restriction))
        (.error (.noMatchAmong pos restriction'))

/-- The entries have the same token and were scanned under the same names. -/
structure HistoryEntry.Alike (entry entry' : HistoryEntry) : Prop where
  token_eq : entry.token = entry'.token
  restriction : SameNames entry.restriction entry'.restriction

/-- The tokenizers ignore the same patterns and stand at the same place of the same input, with
histories that have the same tokens. -/
structure Tokenizer.Alike (s t : Tokenizer) : Prop where
  ignored : ∀ rank, s.ignored.contains rank = t.ignored.contains rank
  input_eq : s.input = t.input
  cursor_eq : s.cursor = t.cursor
  history : List.Forall₂ HistoryEntry.Alike s.history t.history

/-- The answers are alike, and the tokens of the histories and the positions are the same. -/
structure Tokenizer.Observation.Alike (o o' : Observation) : Prop where
  answer : Option.Rel AlikeAnswers o.answer o'.answer
  tokens_eq : o.history.map HistoryEntry.token = o'.history.map HistoryEntry.token
  position_eq : o.position = o'.position

/-! ## Restrictions -/

namespace SameNames

variable {restriction restriction' stored stored' : Restriction}

theorem of_forall {names names' : List String} (h : ∀ name ∈ names, name ∈ names')
    (h' : ∀ name ∈ names', name ∈ names) : SameNames names names' :=
  fun name => ⟨h name, h' name⟩

theorem eq_nil_iff (h : SameNames restriction restriction') :
    restriction = [] ↔ restriction' = [] := by
  simp only [List.eq_nil_iff_forall_not_mem, h _]

theorem isEmpty_eq (h : SameNames restriction restriction') :
    restriction.isEmpty = restriction'.isEmpty := by
  rw [Bool.eq_iff_iff, List.isEmpty_iff, List.isEmpty_iff]
  exact h.eq_nil_iff

/-- The same names are let through. -/
theorem allows_eq (h : SameNames restriction restriction') (name : String) :
    restriction.allows name = restriction'.allows name := by
  have hcontains : restriction.contains name = restriction'.contains name := by
    rw [Bool.eq_iff_iff, List.contains_iff_mem, List.contains_iff_mem]
    exact h name
  rw [Restriction.allows, Restriction.allows, h.isEmpty_eq, hcontains]

/-- A stored token may be asked for alike. -/
theorem isWithin_eq (h : SameNames restriction restriction') (hstored : SameNames stored stored') :
    restriction.isWithin stored = restriction'.isWithin stored' := by
  rw [Bool.eq_iff_iff, Tokenizer.Restriction.isWithin_iff, Tokenizer.Restriction.isWithin_iff]
  simp only [h.eq_nil_iff, hstored.eq_nil_iff, h _, hstored _]

/-- Where nothing is found, the answers are alike. -/
theorem nothingFound (h : SameNames restriction restriction') (pos : Nat) :
    AlikeAnswers (.error (Tokenizer.nothingFound restriction pos))
      (.error (Tokenizer.nothingFound restriction' pos)) := by
  rw [Tokenizer.nothingFound, Tokenizer.nothingFound, h.isEmpty_eq]
  split
  · exact .same _
  · exact .noMatchAmong pos h

end SameNames

/-! ## Histories -/

/-- Of lists that are related place by place, the entries at one place are related. -/
theorem rel_getElem? {α β : Type} {R : α → β → Prop} {xs : List α} {ys : List β}
    (h : List.Forall₂ R xs ys) (i : Nat) : Option.Rel R xs[i]? ys[i]? := by
  induction h generalizing i with
  | nil => exact .none
  | cons hxy hrest ih =>
    cases i with
    | zero => exact .some hxy
    | succ i => exact ih i

namespace Tokenizer.Alike

variable {s t : Tokenizer} {restriction restriction' : Restriction}

theorem length_eq (h : s.Alike t) : s.history.length = t.history.length := h.history.length_eq

theorem tokens_eq (h : s.Alike t) : s.tokens = t.tokens := by
  rw [tokens, tokens, ← List.forall₂_eq_eq_eq, List.forall₂_map_left_iff,
    List.forall₂_map_right_iff]
  exact h.history.imp fun _ _ hentry => hentry.token_eq

theorem moveTo (h : s.Alike t) (pos : Nat) :
    ({ s with cursor := pos } : Tokenizer).Alike { t with cursor := pos } :=
  ⟨h.ignored, h.input_eq, rfl, h.history⟩

/-- The last tokens of the histories are the same, if there are any. -/
theorem repeatsLast_eq (h : s.Alike t) (token : Token) :
    s.repeatsLast token = t.repeatsLast token := by
  have hlast : Option.Rel HistoryEntry.Alike s.history.getLast? t.history.getLast? := by
    rw [List.getLast?_eq_getElem?, List.getLast?_eq_getElem?, h.length_eq]
    exact rel_getElem? h.history _
  rw [repeatsLast, repeatsLast]
  generalize s.history.getLast? = last at hlast
  generalize t.history.getLast? = last' at hlast
  cases hlast with
  | none => rfl
  | some hentry =>
    simp only
    rw [hentry.token_eq]

/-! ## Scans -/

/-- Searches go past the same matches and end alike. -/
theorem find_eq (h : s.Alike t) (hnames : SameNames restriction restriction')
    (patterns : List (Pattern engine options)) :
    find patterns s.ignored restriction s.input s.cursor =
      find patterns t.ignored restriction' t.input t.cursor := by
  rw [h.input_eq, h.cursor_eq]
  apply find_congr h.ignored
  intro pos
  exact firstMatch_of_allows h.ignored hnames.allows_eq

/-- A scan finds the same token, or fails alike, and compiles the same patterns. -/
theorem advance (h : s.Alike t) (hnames : SameNames restriction restriction')
    (r : Lexicon engine options) (index : Nat) :
    AlikeAnswers (Tokenizer.advance r s index restriction).1
        (Tokenizer.advance r t index restriction').1 ∧
      (Tokenizer.advance r s index restriction).2.1.Alike
        (Tokenizer.advance r t index restriction').2.1 ∧
      (Tokenizer.advance r s index restriction).2.2 =
        (Tokenizer.advance r t index restriction').2.2 := by
  rw [Tokenizer.advance, Tokenizer.advance, h.find_eq hnames]
  generalize find r.patterns t.ignored restriction' t.input t.cursor = finding
  obtain ⟨winner, stop, tried⟩ := finding
  cases winner with
  | error e => exact ⟨.same _, h.moveTo stop, rfl⟩
  | ok found =>
    cases found with
    | none => exact ⟨hnames.nothingFound stop, h.moveTo stop, rfl⟩
    | some w =>
      have hbehind := h.moveTo (stop + w.length)
      simp only
      rw [hbehind.repeatsLast_eq]
      split
      · exact ⟨.same _, hbehind, rfl⟩
      · refine ⟨.same _, ?_, rfl⟩
        -- the token is the same, and the restrictions that go with it have the same names
        constructor
        · exact h.ignored
        · exact h.input_eq
        · rfl
        · apply List.rel_append h.history
          exact .cons ⟨rfl, hnames⟩ .nil

/-! ## Commands -/

/-- A request recalls the same token, is refused alike, or makes a scan. -/
theorem tokenAt (h : s.Alike t) (hnames : SameNames restriction restriction')
    (r : Lexicon engine options) (index : Nat) :
    AlikeAnswers (Tokenizer.tokenAt r s index restriction).1
        (Tokenizer.tokenAt r t index restriction').1 ∧
      (Tokenizer.tokenAt r s index restriction).2.1.Alike
        (Tokenizer.tokenAt r t index restriction').2.1 ∧
      (Tokenizer.tokenAt r s index restriction).2.2 =
        (Tokenizer.tokenAt r t index restriction').2.2 := by
  have hentry := rel_getElem? h.history index
  rw [Tokenizer.tokenAt, Tokenizer.tokenAt]
  generalize s.history[index]? = stored at hentry
  generalize t.history[index]? = stored' at hentry
  cases hentry with
  | some hentry =>
    refine ⟨?_, h, rfl⟩
    simp only
    rw [storedToken, storedToken, hnames.isWithin_eq hentry.restriction, hentry.token_eq]
    exact .same _
  | none =>
    simp only
    rw [h.length_eq]
    split
    · exact h.advance hnames r index
    · exact ⟨.same _, h, rfl⟩

theorem returnTo (h : s.Alike t) (index : Nat) : (s.returnTo index).Alike (t.returnTo index) := by
  have hentry := rel_getElem? h.history index
  rw [Tokenizer.returnTo, Tokenizer.returnTo]
  generalize s.history[index]? = stored at hentry
  generalize t.history[index]? = stored' at hentry
  cases hentry with
  | none => exact h
  | some hentry =>
    constructor
    · exact h.ignored
    · exact h.input_eq
    · simp only
      rw [hentry.token_eq]
    · exact List.forall₂_take index h.history

theorem restart (h : s.Alike t) (input : Text) : (s.restart input).Alike (t.restart input) :=
  ⟨h.ignored, rfl, rfl, .nil⟩

/-- Commands that are alike have answers that are alike, and lead to tokenizers that are alike; the
lexicon behind them is the same. -/
theorem run (h : s.Alike t) {c d : TokenizerCommand} (hcommand : c.Alike d)
    (r : Lexicon engine options) :
    Option.Rel AlikeAnswers (c.run r s).1 (d.run r t).1 ∧
      (c.run r s).2.1.Alike (d.run r t).2.1 ∧ (c.run r s).2.2 = (d.run r t).2.2 := by
  cases hcommand with
  | tokenAt index hnames =>
    obtain ⟨hanswer, hbehind⟩ := h.tokenAt hnames r index
    exact ⟨.some hanswer, hbehind⟩
  | @next restriction restriction' hnames =>
    change Option.Rel AlikeAnswers (some (Tokenizer.tokenAt r s s.history.length restriction).1)
        (some (Tokenizer.tokenAt r t t.history.length restriction').1) ∧
      (Tokenizer.tokenAt r s s.history.length restriction).2.1.Alike
        (Tokenizer.tokenAt r t t.history.length restriction').2.1 ∧
      (Tokenizer.tokenAt r s s.history.length restriction).2.2 =
        (Tokenizer.tokenAt r t t.history.length restriction').2.2
    -- the histories have the same length, so the next token has the same number
    rw [h.length_eq]
    obtain ⟨hanswer, hbehind⟩ := h.tokenAt hnames r t.history.length
    exact ⟨.some hanswer, hbehind⟩
  | returnTo index => exact ⟨.none, h.returnTo index, rfl⟩
  | restart input => exact ⟨.none, h.restart input, rfl⟩

end Tokenizer.Alike

namespace Tokenizer

/-! ## Runs -/

/-- What shows of commands that are alike is alike, one after the other, and the patterns that they
compile are the same. -/
theorem Alike.runAll {s t : Tokenizer} (h : s.Alike t) {cs ds : List TokenizerCommand}
    (hcommands : List.Forall₂ TokenizerCommand.Alike cs ds) (r : Lexicon engine options) :
    List.Forall₂ Observation.Alike (observe r s cs) (observe r t ds) ∧
      (Tokenizer.runAll r s cs).1.Alike (Tokenizer.runAll r t ds).1 ∧
      (Tokenizer.runAll r s cs).2 = (Tokenizer.runAll r t ds).2 := by
  induction hcommands generalizing r s t with
  | nil => exact ⟨.nil, h, rfl⟩
  | @cons c d cs ds hcommand hrest ih =>
    obtain ⟨hanswer, hbehind, hlexicon⟩ := h.run hcommand r
    obtain ⟨hobserved, hlast⟩ := ih hbehind (c.run r s).2.2
    rw [observe, observe, Tokenizer.runAll, Tokenizer.runAll, ← hlexicon]
    refine ⟨.cons ?_ hobserved, hlast⟩
    exact ⟨hanswer, hbehind.tokens_eq, hbehind.cursor_eq⟩

/-- At the start, tokenizers are alike if they were told to ignore the same names, among those that
the lexicon knows. -/
theorem alike_ofInput (r : Lexicon engine options) {ignored ignored' : List String}
    (hignored : ∀ name, (r.rank? name).isSome = true → (name ∈ ignored ↔ name ∈ ignored'))
    (input : Text) : (ofInput r ignored input).Alike (ofInput r ignored' input) := by
  refine ⟨?_, rfl, rfl, .nil⟩
  intro rank
  rw [ofInput, ofInput, Bool.eq_iff_iff, List.contains_iff_mem, List.contains_iff_mem,
    List.mem_filterMap, List.mem_filterMap]
  constructor
  · rintro ⟨name, hname, hrank⟩
    have hknown : (r.rank? name).isSome = true := by rw [hrank, Option.isSome_some]
    exact ⟨name, (hignored name hknown).1 hname, hrank⟩
  · rintro ⟨name, hname, hrank⟩
    have hknown : (r.rank? name).isSome = true := by rw [hrank, Option.isSome_some]
    exact ⟨name, (hignored name hknown).2 hname, hrank⟩

/-- The names that a tokenizer ignores and those that a request is limited to act as sets. If two runs
from the start of an input ignore the same names, among those that the lexicon knows, and their
commands are the same but for the order and the number of the names in restrictions, then after every
command the tokens of the histories and the positions are the same, and so are the answers; only
where a restricted request finds nothing, each of the answers lists the names of its own request.
Both runs compile the same patterns. -/
theorem observe_of_sameNames (r : Lexicon engine options) {ignored ignored' : List String}
    (hignored : ∀ name, (r.rank? name).isSome = true → (name ∈ ignored ↔ name ∈ ignored'))
    (input : Text) {cs ds : List TokenizerCommand}
    (hcommands : List.Forall₂ TokenizerCommand.Alike cs ds) :
    let s := ofInput r ignored input
    let t := ofInput r ignored' input
    List.Forall₂ Observation.Alike (observe r s cs) (observe r t ds) ∧
      (runAll r s cs).1.Alike (runAll r t ds).1 ∧ (runAll r s cs).2 = (runAll r t ds).2 := by
  intro s t
  have hstart : s.Alike t := alike_ofInput r hignored input
  exact hstart.runAll hcommands r

/-- Words and numbers are asked for in either order. The first of them is recalled as a word, under
either list of names that it was scanned under, and refused as a sign; it is given back and found
once more. Where no number is found, the answers list what was asked for. -/
theorem observe_of_sameNames_words :
    let r : Lexicon .backtracking {} := .ofList [("number", "1+"), ("space", " +"), ("word", "a+")]
    let ignored : List String := ["space", "space"]
    let ignored' : List String := ["blank", "space"]
    let cs : List TokenizerCommand :=
      [.next ["word", "number"], .tokenAt 0 ["word"], .tokenAt 0 ["word", "sign"], .returnTo 0,
        .next [], .tokenAt 1 ["number", "sign"]]
    let ds : List TokenizerCommand :=
      [.next ["number", "word", "word"], .tokenAt 0 ["word", "word"], .tokenAt 0 ["sign", "word"],
        .returnTo 0, .next [], .tokenAt 1 ["sign", "number", "sign"]]
    let input : Text := [' ', 'a', ' ', 'a']
    let observed := observe r (ofInput r ignored input) cs
    let observed' := observe r (ofInput r ignored' input) ds
    (∀ name, (r.rank? name).isSome = true → (name ∈ ignored ↔ name ∈ ignored')) ∧
      List.Forall₂ TokenizerCommand.Alike cs ds ∧
      List.Forall₂ Observation.Alike observed observed' ∧
      observed[1]?.map (fun o => o.answer) = some (some (.ok ⟨2, "word", ⟨1, 2⟩⟩)) ∧
      observed[2]?.map (fun o => o.answer) = some (some (.error (.restrictionChanged 0))) ∧
      observed[5]?.map (fun o => o.answer) =
        some (some (.error (.noMatchAmong 3 ["number", "sign"]))) ∧
      observed'[5]?.map (fun o => o.answer) =
        some (some (.error (.noMatchAmong 3 ["sign", "number", "sign"]))) := by
  intro r ignored ignored' cs ds input observed observed'
  have hignored : ∀ name, (r.rank? name).isSome = true → (name ∈ ignored ↔ name ∈ ignored') := by
    intro name hknown
    -- the lexicon has no blanks
    have hne : name ≠ "blank" := by
      rintro rfl
      revert hknown
      decide
    simp [ignored, ignored', hne]
  have hcommands : List.Forall₂ TokenizerCommand.Alike cs ds := by
    refine .cons (.next ?_) (.cons (.tokenAt 0 ?_) (.cons (.tokenAt 0 ?_) (.cons (.returnTo 0)
      (.cons (.next ?_) (.cons (.tokenAt 1 ?_) .nil)))))
    all_goals exact .of_forall (by decide) (by decide)
  obtain ⟨hobserved, -⟩ := observe_of_sameNames r hignored input hcommands
  exact ⟨hignored, hcommands, hobserved, by decide +kernel, by decide +kernel, by decide +kernel,
    by decide +kernel⟩

end Tokenizer

end SheetLex
