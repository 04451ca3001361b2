import SheetLex.Proofs.Token.Extension
import SheetLex.Proofs.Token.Irrelevance
import Mathlib.Data.Finset.Card
import SheetLex.Regex.Engine

/-!
# The first registration of a name counts

A lexicon is what has been added to it, each name at its first occurrence
(`Lexicon.FirstWins`). Whether names are added one by one or many at once, whether they are looked up
in passing, and what is compiled or matched in between makes no difference
(`first_registration_wins`).

A lexicon that keeps an index of its names, and consults the index in place of the list, is the same
at every point, and its index says of every name what a search of the list would say
(`IndexedLexicon.Mirrors`).
-/

set_option autoImplicit false

namespace SheetLex

variable {engine : RegexEngine} {options : MatchOptions}

/-! ## What happens to a lexicon -/

/-- The pattern with the name given, which is added first if there is none. -/
def Lexicon.findOrAdd (r : Lexicon engine options) (name source : String) :
    Option (Pattern engine options) × Lexicon engine options :=
  let (rank, r) := r.add name source
  (r.pattern? rank, r)

/-- What can happen to a lexicon. -/
inductive LexiconCommand where
  | add (name source : String)
  | findOrAdd (name source : String)
  | addAll (patterns : List (String × String))
  | prepareAll
  /-- A reader is asked something, wherever it stands. -/
  | ask (reader : Lookahead) (k : ReaderCommand)

/-- What a command answers. -/
inductive LexiconAnswer (engine : RegexEngine) (options : MatchOptions) where
  | rank (rank : Nat)
  | pattern (found : Option (Pattern engine options))
  | prepared (outcome : Except TokenError Unit)
  | reader (answer : ReaderAnswer)
  | done

namespace LexiconCommand

/-- Run one command. -/
def run (r : Lexicon engine options) :
    LexiconCommand → LexiconAnswer engine options × Lexicon engine options
  | .add name source =>
    let (rank, r) := r.add name source
    (.rank rank, r)
  | .findOrAdd name source =>
    let (found, r) := r.findOrAdd name source
    (.pattern found, r)
  | .addAll patterns => (.done, r.addAll patterns)
  | .prepareAll =>
    let (outcome, r) := r.prepareAll
    (.prepared outcome, r)
  | .ask reader k =>
    let (answer, _, r) := k.run r reader
    (.reader answer, r)

/-- Run commands one after the other. -/
def runAll : Lexicon engine options → List LexiconCommand → Lexicon engine options
  | r, [] => r
  | r, c :: cs => runAll (c.run r).2 cs

/-- The names that a command registers, with their sources. -/
def registered : LexiconCommand → List (String × String)
  | .add name source | .findOrAdd name source => [(name, source)]
  | .addAll patterns => patterns
  | .prepareAll | .ask .. => []

end LexiconCommand

/-! ## Names in order of their first occurrence -/

theorem eraseDups_concat_of_mem {names : List String} {name : String} (h : name ∈ names) :
    (names ++ [name]).eraseDups = names.eraseDups := by
  rw [List.eraseDups_append]
  simp [List.removeAll, h]

theorem eraseDups_concat_of_not_mem {names : List String} {name : String} (h : name ∉ names) :
    (names ++ [name]).eraseDups = names.eraseDups ++ [name] := by
  rw [List.eraseDups_append]
  simp [List.removeAll, h, List.eraseDups_cons]

/-- What is looked up is not there if no pair has that name. -/
theorem lookup_eq_none_of_not_mem {given : List (String × String)} {name : String}
    (h : name ∉ given.map Prod.fst) : given.lookup name = none := by
  rw [List.lookup_eq_none_iff]
  intro p hp
  rw [bne_iff_ne]
  rintro rfl
  exact h (List.mem_map_of_mem hp)

/-! ## Adding -/

namespace Lexicon

variable {r r' : Lexicon engine options} {given : List (String × String)} {name source : String}

theorem rank?_eq_none_iff : r.rank? name = none ↔ name ∉ r.patterns.map Pattern.name := by
  rw [rank?, List.findIdx?_eq_none_iff, List.mem_map]
  constructor
  · rintro h ⟨p, hp, rfl⟩
    exact Bool.false_ne_true ((h p hp).symm.trans (beq_self_eq_true p.name))
  · intro h p hp
    rw [beq_eq_false_iff_ne]
    intro hname
    exact h ⟨p, hp, hname⟩

/-- A new name gets the next rank; all other names are where they were. -/
theorem rank?_add_of_none (h : r.rank? name = none) (source other : String) :
    (r.add name source).2.rank? other = if name == other then some r.size else r.rank? other := by
  rw [add_of_none h, rank?, List.findIdx?_append, List.findIdx?_singleton]
  change (r.rank? other).or _ = _
  cases hname : name == other with
  | true =>
    obtain rfl := beq_iff_eq.1 hname
    simp [h, Pattern.ofSource, size]
  | false => simp [hname, Pattern.ofSource]

/-- Adding some patterns and then others is adding all of them. -/
theorem addAll_append (r : Lexicon engine options) (xs ys : List (String × String)) :
    r.addAll (xs ++ ys) = (r.addAll xs).addAll ys := by
  rw [addAll, addAll, addAll, List.foldl_append]

/-- Only patterns of the lexicon have been compiled. -/
def Bounded (r : Lexicon engine options) : Prop := ∀ rank, r.isAttempted rank = true → rank < r.size

/-- The patterns are those given first under their names, in the order given, and none but these
have been compiled. -/
structure FirstWins (r : Lexicon engine options) (given : List (String × String)) : Prop where
  names_eq : r.patterns.map Pattern.name = (given.map Prod.fst).eraseDups
  nodup : (r.patterns.map Pattern.name).Nodup
  source : ∀ p ∈ r.patterns, given.lookup p.name = some p.source
  attempted : r.Bounded

theorem firstWins_empty : ({} : Lexicon engine options).FirstWins [] where
  names_eq := rfl
  nodup := .nil
  source := fun p hp => absurd hp List.not_mem_nil
  attempted := fun rank hrank => by cases hrank

namespace FirstWins

theorem mem_names_iff (h : r.FirstWins given) :
    name ∈ r.patterns.map Pattern.name ↔ name ∈ given.map Prod.fst := by
  rw [h.names_eq, List.mem_eraseDups]

/-- The rank of a name is the place of the pattern with that name. -/
theorem rank?_eq_some_iff (h : r.FirstWins given) {rank : Nat} :
    r.rank? name = some rank ↔ ∃ p, r.pattern? rank = some p ∧ p.name = name := by
  constructor
  · intro hrank
    have hlt := (List.findIdx?_eq_some_iff_getElem.1 hrank).1
    have hp := List.getElem?_eq_getElem hlt
    exact ⟨_, hp, name_of_rank? hrank hp⟩
  · rintro ⟨p, hp, rfl⟩
    have hplace : (r.patterns.map Pattern.name)[rank]? = some p.name := by
      rw [List.getElem?_map, show r.patterns[rank]? = some p from hp, Option.map_some]
    cases hrank : r.rank? p.name with
    | none => exact absurd (List.mem_of_getElem? hplace) (rank?_eq_none_iff.1 hrank)
    | some i =>
      -- no name has two places
      have hlt := (List.findIdx?_eq_some_iff_getElem.1 hrank).1
      have hfound : (r.patterns.map Pattern.name)[i]? = some p.name := by
        have hi := List.getElem?_eq_getElem hlt
        rw [List.getElem?_map, hi, Option.map_some, name_of_rank? hrank hi]
      have hbound : i < (r.patterns.map Pattern.name).length := by
        rw [List.length_map]
        exact hlt
      rw [(List.getElem?_inj hbound h.nodup).1 (hfound.trans hplace.symm)]

/-- There are as many patterns as names. -/
theorem size_eq (h : r.FirstWins given) : r.size = (given.map Prod.fst).toFinset.card := by
  have hnames : (given.map Prod.fst).toFinset = (r.patterns.map Pattern.name).toFinset := by
    ext name
    rw [List.mem_toFinset, List.mem_toFinset, h.mem_names_iff]
  rw [hnames, List.toFinset_card_of_nodup h.nodup, List.length_map, size]

/-- A name that is taken keeps its pattern; a new one goes to the end. -/
theorem add (h : r.FirstWins given) (name source : String) :
    (r.add name source).2.FirstWins (given ++ [(name, source)]) := by
  have hold : ∀ p ∈ r.patterns, (given ++ [(name, source)]).lookup p.name = some p.source := by
    intro p hp
    rw [List.lookup_append, h.source p hp, Option.some_or]
  have hnames : (given ++ [(name, source)]).map Prod.fst = given.map Prod.fst ++ [name] := by
    rw [List.map_append]
    rfl
  cases hrank : r.rank? name with
  | some rank =>
    rw [add_of_some hrank]
    have hmem : name ∈ given.map Prod.fst := by
      rw [← h.mem_names_iff]
      by_contra hnone
      rw [rank?_eq_none_iff.2 hnone] at hrank
      cases hrank
    refine ⟨?_, h.nodup, hold, h.attempted⟩
    rw [hnames, eraseDups_concat_of_mem hmem, h.names_eq]
  | none =>
    rw [add_of_none hrank]
    have hfree := rank?_eq_none_iff.1 hrank
    have hnew : name ∉ given.map Prod.fst := by
      rw [← h.mem_names_iff]
      exact hfree
    have hbehind : (r.patterns ++ [Pattern.ofSource name source]).map Pattern.name =
        r.patterns.map Pattern.name ++ [name] := by
      rw [List.map_append]
      rfl
    constructor
    · rw [hnames, eraseDups_concat_of_not_mem hnew, hbehind, h.names_eq]
    · rw [hbehind, ← List.concat_eq_append]
      exact h.nodup.concat hfree
    · intro p hp
      rcases List.mem_append.1 hp with hp | hp
      · exact hold p hp
      · obtain rfl := List.mem_singleton.1 hp
        rw [List.lookup_append]
        simp only [Pattern.ofSource]
        rw [lookup_eq_none_of_not_mem hnew, Option.none_or, List.lookup_cons_self]
    · intro rank hattempted
      apply Nat.lt_of_lt_of_le (h.attempted rank hattempted)
      rw [size, size, List.length_append]
      exact Nat.le_add_right _ _

theorem addAll (h : r.FirstWins given) (patterns : List (String × String)) :
    (r.addAll patterns).FirstWins (given ++ patterns) := by
  induction patterns generalizing r given with
  | nil =>
    rw [List.append_nil]
    exact h
  | cons p patterns ih =>
    rw [List.append_cons]
    exact ih (h.add p.1 p.2)

/-- The answer to an addition is the rank of the pattern with the name given. -/
theorem exists_added (h : r.FirstWins given) (name source : String) :
    ∃ p, (r.add name source).2.pattern? (r.add name source).1 = some p ∧ p.name = name ∧
      (given ++ [(name, source)]).lookup name = some p.source ∧
      (r.add name source).2.rank? name = some (r.add name source).1 := by
  have hadded := h.add name source
  have hrank : (r.add name source).2.rank? name = some (r.add name source).1 := by
    cases hrank : r.rank? name with
    | some rank =>
      rw [add_of_some hrank]
      exact hrank
    | none =>
      rw [add_of_none hrank] at hadded ⊢
      rw [hadded.rank?_eq_some_iff]
      exact ⟨.ofSource name source, List.getElem?_concat_length, rfl⟩
  obtain ⟨p, hp, hname⟩ := hadded.rank?_eq_some_iff.1 hrank
  have hsource := hadded.source p (List.mem_of_getElem? hp)
  rw [hname] at hsource
  exact ⟨p, hp, hname, hsource, hrank⟩

/-- Compiling patterns of the lexicon registers nothing. -/
theorem of_grows (h : r.FirstWins given) (hgrows : r.Grows r') (hattempted : r'.Bounded) :
    r'.FirstWins given := by
  obtain ⟨hpatterns, -⟩ := hgrows
  constructor
  · rw [hpatterns]
    exact h.names_eq
  · rw [hpatterns]
    exact h.nodup
  · rw [hpatterns]
    exact h.source
  · exact hattempted

end FirstWins

/-! ## Compiling -/

theorem lt_of_mem_prepareFrom {first rank : Nat} {patterns : List (Pattern engine options)}
    (h : rank ∈ (prepareFrom first patterns).2) : rank < first + patterns.length := by
  induction patterns generalizing first with
  | nil => cases h
  | cons p patterns ih =>
    rw [List.length_cons]
    rw [prepareFrom] at h
    split at h
    · rw [List.mem_singleton.1 h]
      omega
    · rcases List.mem_cons.1 h with rfl | h
      · omega
      · have := ih h
        omega

theorem Bounded.markAttempted (h : r.Bounded) {ranks : List Nat}
    (hranks : ∀ rank ∈ ranks, rank < r.size) : (r.markAttempted ranks).Bounded := by
  intro rank hrank
  rcases (r.isAttempted_markAttempted ranks rank).1 hrank with hold | hnew
  · exact h rank hold
  · exact hranks rank hnew

theorem Bounded.tokenAt (h : r.Bounded) (s : Tokenizer) (index : Nat) (restriction : Restriction) :
    (s.tokenAt r index restriction).2.2.Bounded := by
  rw [Tokenizer.tokenAt]
  split
  · exact h
  · split
    · rw [Tokenizer.lexicon_advance]
      apply h.markAttempted
      intro rank hrank
      obtain ⟨p, hp, -⟩ := Tokenizer.exists_of_mem_tried hrank
      exact (List.getElem?_eq_some_iff.1 hp).1
    · exact h

theorem Bounded.ask (h : r.Bounded) (reader : Lookahead) (k : ReaderCommand) :
    (k.run r reader).2.2.Bounded := by
  cases k with
  | fromFirst => exact h
  | tokenizer k =>
    cases k with
    | tokenAt index restriction => exact h.tokenAt _ index restriction
    | next restriction => exact h.tokenAt _ _ restriction
    | returnTo index => exact h
    | restart input => exact h
  | lookahead k =>
    cases k with
    | nextKind kinds =>
      change (reader.nextKind r kinds).2.2.Bounded
      rw [Lookahead.nextKind_eq]
      exact h.tokenAt _ _ kinds
    | take kind =>
      change (reader.take r kind).2.2.Bounded
      rw [Lookahead.take_eq]
      exact h.tokenAt _ _ [kind]
    | restart input => exact h

/-! ## Keeping what is there -/

theorem Grows.keeps (h : r.Grows r') : r.Keeps r' := by
  obtain ⟨hpatterns, hattempted⟩ := h
  refine ⟨?_, hattempted⟩
  rw [hpatterns]

/-- A pattern that is kept has the rank that it had. -/
theorem Keeps.rank?_eq (h : r.Keeps r') {rank : Nat} (hrank : r.rank? name = some rank) :
    r'.rank? name = some rank := by
  have hlt : rank < r.patterns.length := (List.findIdx?_eq_some_iff_getElem.1 hrank).1
  exact (h.rank?_eq_iff hlt name).2 hrank

theorem Keeps.pattern?_eq (h : r.Keeps r') {rank : Nat} {p : Pattern engine options}
    (hp : r.pattern? rank = some p) : r'.pattern? rank = some p := by
  obtain ⟨more, hmore⟩ := h.isPrefix
  rw [pattern?, ← hmore, List.getElem?_append_left (List.getElem?_eq_some_iff.1 hp).1]
  exact hp

end Lexicon

/-! ## Commands -/

open Lexicon

namespace LexiconCommand

variable {r : Lexicon engine options} {given : List (String × String)}

theorem firstWins_run (h : r.FirstWins given) (c : LexiconCommand) :
    (c.run r).2.FirstWins (given ++ c.registered) := by
  cases c with
  | add name source => exact h.add name source
  | findOrAdd name source => exact h.add name source
  | addAll patterns => exact h.addAll patterns
  | prepareAll =>
    rw [registered, List.append_nil]
    apply h.of_grows (r.grows_markAttempted _)
    apply h.attempted.markAttempted
    intro rank hrank
    have hlt := lt_of_mem_prepareFrom hrank
    rw [Nat.zero_add] at hlt
    exact hlt
  | ask reader k =>
    rw [registered, List.append_nil]
    exact h.of_grows (ReaderCommand.grows_run r reader k) (h.attempted.ask reader k)

theorem keeps_run (r : Lexicon engine options) (c : LexiconCommand) : r.Keeps (c.run r).2 := by
  cases c with
  | add name source => exact r.keeps_add name source
  | findOrAdd name source => exact r.keeps_add name source
  | addAll patterns => exact r.keeps_addAll patterns
  | prepareAll => exact (r.grows_markAttempted _).keeps
  | ask reader k => exact (ReaderCommand.grows_run r reader k).keeps

theorem firstWins_runAll (h : r.FirstWins given) (cs : List LexiconCommand) :
    (runAll r cs).FirstWins (given ++ cs.flatMap registered) := by
  induction cs generalizing r given with
  | nil =>
    rw [List.flatMap_nil, List.append_nil]
    exact h
  | cons c cs ih =>
    rw [List.flatMap_cons, ← List.append_assoc]
    exact ih (firstWins_run h c)

theorem keeps_runAll (r : Lexicon engine options) (cs : List LexiconCommand) :
    r.Keeps (runAll r cs) := by
  induction cs generalizing r with
  | nil => exact .refl r
  | cons c cs ih => exact (keeps_run r c).trans (ih _)

end LexiconCommand

/-! ## An index of the names -/

/-- A lexicon with an index of its names. -/
structure IndexedLexicon (engine : RegexEngine) (options : MatchOptions) where
  lexicon : Lexicon engine options := {}
  /-- The ranks of the patterns by their names. -/
  index : Std.HashMap String Nat := {}

namespace IndexedLexicon

/-- Add a pattern, unless the index has its name. -/
def add (x : IndexedLexicon engine options) (name source : String) :
    Nat × IndexedLexicon engine options :=
  match x.index[name]? with
  | some rank => (rank, x)
  | none =>
    let rank := x.lexicon.size
    let patterns := x.lexicon.patterns ++ [.ofSource name source]
    (rank, ⟨{ x.lexicon with patterns }, x.index.insert name rank⟩)

/-- Run one command. -/
def run (x : IndexedLexicon engine options) :
    LexiconCommand → LexiconAnswer engine options × IndexedLexicon engine options
  | .add name source =>
    let (rank, x) := x.add name source
    (.rank rank, x)
  | .findOrAdd name source =>
    let (rank, x) := x.add name source
    (.pattern (x.lexicon.pattern? rank), x)
  | .addAll patterns => (.done, patterns.foldl (fun x p => (x.add p.1 p.2).2) x)
  | .prepareAll =>
    let (outcome, lexicon) := x.lexicon.prepareAll
    (.prepared outcome, { x with lexicon })
  | .ask reader k =>
    let (answer, _, lexicon) := k.run x.lexicon reader
    (.reader answer, { x with lexicon })

/-- Run commands one after the other. -/
def runAll : IndexedLexicon engine options → List LexiconCommand → IndexedLexicon engine options
  | x, [] => x
  | x, c :: cs => runAll (x.run c).2 cs

/-- The lexicon with the index is the one given, and its index says where the names are. -/
structure Mirrors (x : IndexedLexicon engine options) (r : Lexicon engine options) : Prop where
  lexicon_eq : x.lexicon = r
  index_eq : ∀ name, x.index[name]? = r.rank? name

variable {x : IndexedLexicon engine options} {r r' : Lexicon engine options}

namespace Mirrors

theorem empty : Mirrors ({} : IndexedLexicon engine options) {} where
  lexicon_eq := rfl
  index_eq := fun name => by rw [Std.HashMap.getElem?_empty]; rfl

/-- The index decides as a search of the list does, and a new name gets the same rank in both. -/
theorem add (h : x.Mirrors r) (name source : String) :
    (x.add name source).1 = (r.add name source).1 ∧
      (x.add name source).2.Mirrors (r.add name source).2 := by
  obtain ⟨rfl, hindex⟩ := h
  rw [IndexedLexicon.add, hindex]
  cases hrank : x.lexicon.rank? name with
  | some rank =>
    rw [add_of_some hrank]
    exact ⟨rfl, rfl, hindex⟩
  | none =>
    refine ⟨?_, ?_, ?_⟩
    · rw [add_of_none hrank]
    · rw [add_of_none hrank]
    · intro other
      simp only
      rw [Std.HashMap.getElem?_insert, rank?_add_of_none hrank, hindex]

theorem addAll (h : x.Mirrors r) (patterns : List (String × String)) :
    (patterns.foldl (fun x p => (x.add p.1 p.2).2) x).Mirrors (r.addAll patterns) := by
  induction patterns generalizing x r with
  | nil => exact h
  | cons p patterns ih => exact ih (h.add p.1 p.2).2

theorem of_grows (h : x.Mirrors r) (hgrows : r.Grows r') : Mirrors { x with lexicon := r' } r' := by
  refine ⟨rfl, ?_⟩
  intro name
  rw [Lexicon.rank?, hgrows.patterns_eq]
  exact h.index_eq name

/-- With the index and without, a command has the same answer and leads to the same lexicon. -/
theorem run (h : x.Mirrors r) (c : LexiconCommand) :
    (x.run c).1 = (c.run r).1 ∧ (x.run c).2.Mirrors (c.run r).2 := by
  cases c with
  | add name source =>
    obtain ⟨hrank, hbehind⟩ := h.add name source
    exact ⟨congrArg LexiconAnswer.rank hrank, hbehind⟩
  | findOrAdd name source =>
    obtain ⟨hrank, hbehind⟩ := h.add name source
    refine ⟨?_, hbehind⟩
    change LexiconAnswer.pattern ((x.add name source).2.lexicon.pattern? (x.add name source).1) =
      .pattern ((r.add name source).2.pattern? (r.add name source).1)
    rw [hrank, hbehind.lexicon_eq]
  | addAll patterns => exact ⟨rfl, h.addAll patterns⟩
  | prepareAll =>
    obtain rfl := h.lexicon_eq
    exact ⟨rfl, h.of_grows (x.lexicon.grows_markAttempted _)⟩
  | ask reader k =>
    obtain rfl := h.lexicon_eq
    exact ⟨rfl, h.of_grows (ReaderCommand.grows_run x.lexicon reader k)⟩

theorem runAll (h : x.Mirrors r) (cs : List LexiconCommand) :
    (x.runAll cs).Mirrors (LexiconCommand.runAll r cs) := by
  induction cs generalizing x r with
  | nil => exact h
  | cons c cs ih => exact ih (h.run c).2

end Mirrors

end IndexedLexicon

/-! ## Registration -/

/-- Whatever happens to a lexicon from the start, it lists the names that have been registered, each
once and at its first occurrence, with the source that came with it there. The rank of a name is its
place in this list, and there are as many ranks as names. An addition, and a lookup that adds, give
the place and the pattern of the name asked for. Whatever happens later, a pattern stays at its
place under its name, and is compiled if it was; a pattern that is yet to come is not. Patterns can
be added in portions. An index of the names agrees with the list at every point, so a lexicon that
looks names up in an index answers all commands alike. -/
theorem first_registration_wins (engine : RegexEngine) (options : MatchOptions)
    (cs : List LexiconCommand) :
    let r : Lexicon engine options := LexiconCommand.runAll {} cs
    let given := cs.flatMap LexiconCommand.registered
    let x : IndexedLexicon engine options := IndexedLexicon.runAll {} cs
    r.patterns.map Pattern.name = (given.map Prod.fst).eraseDups ∧
      (∀ p ∈ r.patterns, given.lookup p.name = some p.source) ∧
      (∀ name rank, r.rank? name = some rank ↔ ∃ p, r.pattern? rank = some p ∧ p.name = name) ∧
      r.size = (given.map Prod.fst).toFinset.card ∧
      (∀ name source, ∃ p, (r.add name source).2.pattern? (r.add name source).1 = some p ∧
        p.name = name ∧ (given ++ [(name, source)]).lookup name = some p.source ∧
        (r.add name source).2.rank? name = some (r.add name source).1 ∧
        r.findOrAdd name source = (some p, (r.add name source).2)) ∧
      (∀ ds rank p, r.pattern? rank = some p →
        (LexiconCommand.runAll r ds).pattern? rank = some p ∧
        (LexiconCommand.runAll r ds).rank? p.name = some rank ∧
        (r.isAttempted rank = true → (LexiconCommand.runAll r ds).isAttempted rank = true)) ∧
      (∀ rank, r.isAttempted rank = true → rank < r.size) ∧
      (∀ xs ys, (r.addAll xs).addAll ys = r.addAll (xs ++ ys)) ∧
      x.lexicon = r ∧ (∀ name, x.index[name]? = r.rank? name) ∧
      ∀ c : LexiconCommand, (x.run c).1 = (c.run r).1 := by
  intro r given x
  have h : r.FirstWins given := LexiconCommand.firstWins_runAll firstWins_empty cs
  have hx : x.Mirrors r := IndexedLexicon.Mirrors.empty.runAll cs
  refine ⟨h.names_eq, h.source, fun name rank => h.rank?_eq_some_iff, h.size_eq, ?_, ?_,
    h.attempted, fun xs ys => (r.addAll_append xs ys).symm, hx.lexicon_eq, hx.index_eq,
    fun c => (hx.run c).1⟩
  · intro name source
    obtain ⟨p, hp, hname, hsource, hrank⟩ := h.exists_added name source
    refine ⟨p, hp, hname, hsource, hrank, ?_⟩
    rw [← hp]
    rfl
  · intro ds rank p hp
    have hkeeps := LexiconCommand.keeps_runAll r ds
    have hrank := h.rank?_eq_some_iff.2 ⟨p, hp, rfl⟩
    exact ⟨hkeeps.pattern?_eq hp, hkeeps.rank?_eq hrank, hkeeps.attempted⟩

/-- A word is registered twice and looked up under a third source, and a number is registered behind
it; then all are compiled, and a sign is added. -/
theorem first_registration_wins_words :
    let cs : List LexiconCommand :=
      [.add "word" "a+", .addAll [("number", "1+"), ("word", "b+")], .findOrAdd "word" "c+",
        .prepareAll]
    let r : Lexicon .backtracking {} := LexiconCommand.runAll {} cs
    let later : Lexicon .backtracking {} :=
      LexiconCommand.runAll r [.add "sign" "!", .add "number" "2+"]
    r.patterns.map Pattern.name = ["word", "number"] ∧ r.rank? "number" = some 1 ∧
      r.isAttempted 1 = true ∧ later.rank? "number" = some 1 ∧ later.isAttempted 1 = true ∧
      later.patterns.map Pattern.source = ["a+", "1+", "!"] ∧ later.isAttempted 2 = false := by
  intro cs r later
  obtain ⟨hnames, -, -, -, -, hlater, -⟩ := first_registration_wins .backtracking {} cs
  obtain ⟨-, hrank, hattempted⟩ :=
    hlater [.add "sign" "!", .add "number" "2+"] 1 (.ofSource "number" "1+") rfl
  have hcompiled : r.isAttempted 1 = true := by decide +kernel
  refine ⟨hnames.trans ?_, by decide, hcompiled, hrank, hattempted hcompiled, by decide, ?_⟩
  · simp [cs, LexiconCommand.registered, List.eraseDups_cons]
  · decide +kernel

end SheetLex
