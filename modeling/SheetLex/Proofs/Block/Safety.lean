import SheetLex.Proofs.Block.Bytewise

/-!
# A byte splitter refuses nothing

A byte splitter goes in turns: it reads the byte at its cursor, or concludes at the end of the
source. `Reached` are the states that turns lead to, between any two bytes. In each of them the
marks are well placed (`WellPlaced`): in order, within what has been read, on boundaries of
characters, and with an opening brace where an open rule is remembered to begin; and the next turn
is not refused. The reason is that each of them mirrors a state of a splitter, in which the marks
lie in order (`Mirrors`), but for the bytes that may have been read of the next character.

A run of commands asks several copies of a byte splitter for blocks, one at a time or through an
iterator, starts them over and copies them. No run is refused, and it gives what the same run of
splitters gives (`runs_wellPlaced`).
-/

set_option autoImplicit false

namespace SheetLex

/-! ## Commands -/

/-- What can be asked of a splitter. -/
inductive SplitterCall where
  | next
  /-- Ask an iterator over the remaining blocks `n` times. -/
  | iterate (n : Nat)
  | restart
deriving DecidableEq, Repr

/-- A command to one of several splitters, numbered from `0` on. -/
inductive SplitterCommand where
  | call (i : Nat) (request : SplitterCall)
  /-- Copy a splitter; the copy gets the next number. -/
  | copy (i : Nat)
deriving DecidableEq, Repr

namespace Splitter

/-- What a splitter gives to a request, and the splitter after it. -/
def call (l : Splitter) : SplitterCall → List (Option Block) × Splitter
  | .next => ([some l.next.1], l.next.2)
  | .iterate n => l.attempt n
  | .restart => ([], l.restart)

/-- Run one command. One to a splitter that does not exist has no effect. -/
def runCommand (pool : List Splitter) : SplitterCommand → List (Option Block) × List Splitter
  | .call i request =>
    match pool[i]? with
    | some l => ((l.call request).1, pool.set i (l.call request).2)
    | none => ([], pool)
  | .copy i => ([], pool ++ pool[i]?.toList)

/-- Run commands one after the other. -/
def runCommands : List Splitter → List SplitterCommand → List (List (Option Block)) × List Splitter
  | pool, [] => ([], pool)
  | pool, command :: commands =>
    let (answers, pool') := runCommand pool command
    let (rest, pool'') := runCommands pool' commands
    (answers :: rest, pool'')

/-- The state of a splitter with its positions as byte offsets. -/
def inBytes (l : Splitter) : SplitterState := l.state.inBytes l.source

end Splitter

namespace ByteSplitter

section Calls

variable (source : Text) (options : SplitOptions)

/-- Read the remaining bytes up to the first block that one completes. -/
def readOn? : List UInt8 → SplitterState → Option (Option Block × SplitterState)
  | [], s => some (none, s)
  | byte :: rest, s => do
    match ← readByte? source options byte s with
    | (some block, s') => some (some block, s')
    | (none, s') => readOn? rest s'

/-- The next block. -/
def next? (s : SplitterState) : Option (Block × SplitterState) := do
  match ← readOn? source options ((Text.encode source).drop s.cursor) s with
  | (some block, s') => some (block, s')
  | (none, s') => conclude? source options s'

/-- Ask for the next block `n` times, and no more once the pass has ended. -/
def attempt? : Nat → SplitterState → Option (List (Option Block) × SplitterState)
  | 0, s => some ([], s)
  | n + 1, s => do
    let (block, s') ← next? source options s
    if block.isEnd then some (List.replicate (n + 1) none, s')
    else
      let (answers, s'') ← attempt? n s'
      some (some block :: answers, s'')

/-- What a byte splitter gives to a request, and the state after it. -/
def call? (s : SplitterState) : SplitterCall → Option (List (Option Block) × SplitterState)
  | .next => do
    let (block, s') ← next? source options s
    some ([some block], s')
  | .iterate n => attempt? source options n s
  | .restart => some ([], {})

/-- Run one command. One to a splitter that does not exist has no effect. -/
def runCommand? (pool : List SplitterState) :
    SplitterCommand → Option (List (Option Block) × List SplitterState)
  | .call i request =>
    match pool[i]? with
    | some s => do
      let (answers, s') ← call? source options s request
      some (answers, pool.set i s')
    | none => some ([], pool)
  | .copy i => some ([], pool ++ pool[i]?.toList)

/-- Run commands one after the other. -/
def runCommands? : List SplitterState → List SplitterCommand →
    Option (List (List (Option Block)) × List SplitterState)
  | pool, [] => some ([], pool)
  | pool, command :: commands => do
    let (answers, pool') ← runCommand? source options pool command
    let (rest, pool'') ← runCommands? pool' commands
    some (answers :: rest, pool'')

/-! ## Turns -/

/-- One turn: read the byte at the cursor, or conclude at the end of the source. -/
def turn? (s : SplitterState) : Option (Option Block × SplitterState) :=
  match (Text.encode source)[s.cursor]? with
  | some byte => readByte? source options byte s
  | none => do
    let (block, s') ← conclude? source options s
    some (some block, s')

/-- The states that turns lead to. -/
inductive Reached : SplitterState → Prop
  | start : Reached {}
  | turn {s s' : SplitterState} {block : Option Block} : Reached s →
      turn? source options s = some (block, s') → Reached s'

end Calls

/-- The marks of a state. -/
def marks (s : SplitterState) : List Nat :=
  [s.pending, s.selector, s.boundary, s.brace] ++ s.tentative.toList

/-- The marks of a state, as byte offsets of the source, are where they should be. -/
structure WellPlaced (source : Text) (s : SplitterState) : Prop where
  pending_le : s.pending ≤ s.selector
  selector_le : s.selector ≤ s.cursor
  cursor_le : s.cursor ≤ Text.byteLength source
  boundary_le : s.boundary ≤ s.cursor
  tentative_mem : ∀ t, s.tentative = some t → s.boundary ≤ t ∧ t ≤ s.cursor
  marks_aligned : ∀ mark ∈ marks s, (Text.charIndex? source mark).isSome = true
  depth_pos : s.interpolation = true → 0 < s.depth
  /-- While an outermost rule is open, its selector ends at a brace that has been read. -/
  brace_mem : 0 < s.depth → s.interpolation = false →
    s.selector ≤ s.brace ∧ s.brace < s.cursor ∧
      (Text.encode source)[s.brace]? = some '{'.toUInt8

open Splitter

section Mirrors

variable {source : Text} {options : SplitOptions} {s b : SplitterState} {c : Char}

/-- A state of a byte splitter mirrors one of a splitter, with so many bytes read of the character
that is next there. -/
structure Mirrors (source : Text) (s : SplitterState) (read : Nat) (b : SplitterState) : Prop where
  inOrder : InOrder source s.cursor s
  eq : b = { s.inBytes source with cursor := Text.offset source s.cursor + read }
  read_lt : 0 < read → ∃ c, source[s.cursor]? = some c ∧ read < c.utf8Size

theorem mirrors_inBytes (h : InOrder source s.cursor s) :
    Mirrors source s 0 (s.inBytes source) := ⟨h, rfl, fun hpos => absurd hpos (Nat.lt_irrefl 0)⟩

theorem Mirrors.cursor_le {read : Nat} (h : Mirrors source s read b) :
    b.cursor ≤ Text.byteLength source := by
  obtain ⟨-, rfl, hread⟩ := h
  change Text.offset source s.cursor + read ≤ _
  rcases Nat.eq_zero_or_pos read with rfl | hpos
  · exact Text.offset_le source s.cursor
  · obtain ⟨c, hc, hlt⟩ := hread hpos
    have hnext := Text.offset_le source (s.cursor + 1)
    rw [Text.offset_succ hc] at hnext
    omega

/-- Offsets keep the order of the marks, and lie on boundaries of characters. -/
theorem Mirrors.wellPlaced {read : Nat} (h : Mirrors source s read b) : WellPlaced source b := by
  have hcursor_le := h.cursor_le
  obtain ⟨horder, rfl, -⟩ := h
  have hread {mark : Nat} (hmark : mark ≤ s.cursor) :
      Text.offset source mark ≤ Text.offset source s.cursor + read :=
    Nat.le_add_right_of_le (Text.offset_mono source hmark)
  have haligned (mark : Nat) : (Text.charIndex? source (Text.offset source mark)).isSome = true :=
    Option.isSome_of_eq_some (Text.charIndex?_offset_eq source mark)
  exact {
    pending_le := Text.offset_mono source horder.pending_le
    selector_le := hread horder.selector_le
    cursor_le := hcursor_le
    boundary_le := hread horder.boundary_le
    tentative_mem := by
      intro t ht
      obtain ⟨t', ht', rfl⟩ := Option.map_eq_some_iff.1 ht
      obtain ⟨hboundary, hcursor⟩ := horder.tentative_mem t' ht'
      exact ⟨Text.offset_mono source hboundary, hread hcursor⟩
    marks_aligned := by
      intro mark hmark
      rcases List.mem_append.1 hmark with hmark | hmark
      · simp only [List.mem_cons, List.not_mem_nil, or_false] at hmark
        rcases hmark with rfl | rfl | rfl | rfl <;> exact haligned _
      · obtain ⟨t, -, rfl⟩ := Option.map_eq_some_iff.1 (Option.mem_toList.1 hmark)
        exact haligned t
    depth_pos := horder.depth_pos
    brace_mem := by
      intro hdepth hrule
      obtain ⟨hselector, hbrace, hmark⟩ := horder.brace_mem hdepth hrule
      have hlt := Text.offset_lt hbrace horder.bound_le
      exact ⟨Text.offset_mono source hselector, Nat.lt_add_right read hlt,
        Text.getElem?_encode_of_ascii hmark (by decide)⟩ }

/-! ### Turns -/

theorem turn?_of_byte {byte : UInt8} (h : (Text.encode source)[b.cursor]? = some byte) :
    turn? source options b = readByte? source options byte b := by
  rw [turn?, h]

theorem turn?_of_end (h : Text.byteLength source ≤ b.cursor) :
    turn? source options b =
      (conclude? source options b).map fun answer => (some answer.1, answer.2) := by
  rw [← Text.length_encode] at h
  rw [turn?, List.getElem?_eq_none h, Option.map_eq_bind]
  rfl

/-- Reading an ASCII character is one turn. -/
theorem turn?_of_ascii (h : InOrder source s.cursor s) (hc : source[s.cursor]? = some c)
    (hascii : c.toNat < 128) :
    turn? source options (s.inBytes source) =
      some (answerInBytes source (readChar source options c s)) := by
  rw [turn?_of_byte (Text.getElem?_encode_of_ascii hc hascii), readByte?_of_ascii h hc hascii]

/-- The end of the source is one turn. -/
theorem turn?_of_conclude (h : InOrder source s.cursor s) (hend : s.cursor = source.length) :
    turn? source options (s.inBytes source) =
      some (some (conclude source options s).1, (conclude source options s).2.inBytes source) := by
  have hcursor : Text.byteLength source ≤ (s.inBytes source).cursor := by
    rw [← Text.offset_length, ← hend]
    exact Nat.le_refl _
  rw [turn?_of_end hcursor, conclude?_eq options h hend]
  rfl

/-- A turn inside a character that is not ASCII reads one of its bytes. -/
theorem turn?_of_le {read : Nat} (hc : source[s.cursor]? = some c) (hle : 128 ≤ c.toNat)
    (hread : read < c.utf8Size) :
    turn? source options
        { s.inBytes source with cursor := Text.offset source s.cursor + read } =
      some (none,
        { s.inBytes source with cursor := Text.offset source s.cursor + (read + 1) }) := by
  obtain ⟨byte, hmem, hbyte⟩ := Text.exists_getElem?_encode hc hread
  rw [turn?_of_byte hbyte]
  exact readByte?_of_le (Text.le_of_mem_utf8EncodeChar hle hmem)

/-- The next turn is not refused, and it leads to a state that mirrors one of a splitter. Before the
end of the source it reads one byte. -/
def GoesOn (source : Text) (options : SplitOptions) (b : SplitterState) : Prop :=
  ∃ block b', turn? source options b = some (block, b') ∧
    (∃ s' read', Mirrors source s' read' b') ∧
    (b.cursor < Text.byteLength source → b'.cursor = b.cursor + 1)

theorem goesOn_at_end (options : SplitOptions) (h : InOrder source s.cursor s)
    (hend : s.cursor = source.length) : GoesOn source options (s.inBytes source) := by
  refine ⟨_, _, turn?_of_conclude h hend, ⟨_, 0, mirrors_inBytes (inOrder_conclude h hend)⟩, ?_⟩
  intro hlt
  change Text.offset source s.cursor < _ at hlt
  rw [hend, Text.offset_length] at hlt
  exact absurd hlt (Nat.lt_irrefl _)

theorem goesOn_of_ascii (options : SplitOptions) (h : InOrder source s.cursor s)
    (hc : source[s.cursor]? = some c) (hascii : c.toNat < 128) :
    GoesOn source options (s.inBytes source) := by
  have hstep := inOrder_readChar options h hc
  have hcursor := cursor_readChar source options c s
  rw [← hcursor] at hstep
  refine ⟨_, _, turn?_of_ascii h hc hascii, ⟨_, 0, mirrors_inBytes hstep⟩, ?_⟩
  intro _
  change Text.offset source (readChar source options c s).2.cursor = Text.offset source s.cursor + 1
  rw [hcursor, Text.offset_succ_of_ascii hc hascii]

theorem goesOn_of_le (options : SplitOptions) (h : InOrder source s.cursor s)
    (hc : source[s.cursor]? = some c) (hle : 128 ≤ c.toNat) {read : Nat}
    (hread : read < c.utf8Size) :
    GoesOn source options
      { s.inBytes source with cursor := Text.offset source s.cursor + read } := by
  refine ⟨_, _, turn?_of_le hc hle hread, ?_, fun _ => rfl⟩
  rcases Nat.lt_or_ge (read + 1) c.utf8Size with hlt | hge
  · exact ⟨s, read + 1, h, rfl, fun _ => ⟨c, hc, hlt⟩⟩
  · -- the last byte of the character leads to where the splitter stands behind it
    have hlast : read + 1 = c.utf8Size := Nat.le_antisymm hread hge
    have hnext : InOrder source (s.cursor + 1) { s with cursor := s.cursor + 1 } :=
      { h.succ (List.getElem?_eq_some_iff.1 hc).1 with }
    rw [hlast, ← Text.offset_succ hc]
    exact ⟨{ s with cursor := s.cursor + 1 }, 0, mirrors_inBytes hnext⟩

theorem Mirrors.goesOn {read : Nat} (h : Mirrors source s read b) (options : SplitOptions) :
    GoesOn source options b := by
  obtain ⟨horder, rfl, hread⟩ := h
  rcases Option.eq_none_or_eq_some source[s.cursor]? with hend | ⟨c, hc⟩
  · -- no character is left, so none has been begun
    have hzero : read = 0 := by
      by_contra hne
      obtain ⟨c, hc, -⟩ := hread (Nat.pos_of_ne_zero hne)
      exact absurd (hend.symm.trans hc) (Option.some_ne_none c).symm
    subst hzero
    exact goesOn_at_end options horder
      (Nat.le_antisymm horder.bound_le (List.getElem?_eq_none_iff.1 hend))
  · have hsize : read < c.utf8Size := by
      rcases Nat.eq_zero_or_pos read with rfl | hpos
      · exact c.utf8Size_pos
      · obtain ⟨c', hc', hlt⟩ := hread hpos
        rwa [Option.some.inj (hc.symm.trans hc')]
    rcases Nat.lt_or_ge c.toNat 128 with hascii | hle
    · -- a single byte, of which nothing has been read
      rw [Text.utf8Size_of_ascii hascii] at hsize
      obtain rfl : read = 0 := Nat.lt_one_iff.1 hsize
      exact goesOn_of_ascii options horder hc hascii
    · exact goesOn_of_le options horder hc hle hsize

/-- Every state that turns lead to mirrors one of a splitter. -/
theorem Reached.mirrors (h : Reached source options b) : ∃ s read, Mirrors source s read b := by
  induction h with
  | start =>
    refine ⟨{}, 0, ?_⟩
    have hstart := mirrors_inBytes (s := {}) (inOrder_start source)
    rwa [SplitterState.inBytes_start] at hstart
  | turn hreached hturn ih =>
    obtain ⟨s, read, hmirrors⟩ := ih
    obtain ⟨block, b', hturn', hnext, -⟩ := hmirrors.goesOn options
    obtain ⟨-, rfl⟩ := Prod.mk.inj (Option.some.inj (hturn'.symm.trans hturn))
    exact hnext

end Mirrors

/-! ## Calls -/

section Loop

variable {source : Text} {options : SplitOptions} {s s' : SplitterState} {block : Option Block}

/-- A call is a turn, and a call after it if the turn completes no block. -/
theorem next?_of_turn? (h : turn? source options s = some (block, s'))
    (hcursor : s.cursor < Text.byteLength source → s'.cursor = s.cursor + 1) :
    next? source options s =
      block.elim (next? source options s') fun block => some (block, s') := by
  rw [← Text.length_encode] at hcursor
  rcases Nat.lt_or_ge s.cursor (Text.encode source).length with hlt | hge
  · rw [turn?_of_byte (List.getElem?_eq_getElem hlt)] at h
    rw [next?, List.drop_eq_getElem_cons hlt, readOn?, h]
    cases block with
    | some b => rfl
    | none =>
      rw [next?, hcursor hlt]
      rfl
  · rw [turn?_of_end (Text.length_encode source ▸ hge)] at h
    obtain ⟨⟨b, s''⟩, hconclude, heq⟩ := Option.map_eq_some_iff.1 h
    obtain ⟨rfl, rfl⟩ := Prod.mk.inj heq
    rw [next?, List.drop_eq_nil_of_le hge, readOn?]
    exact hconclude

end Loop

section Answers

variable {source : Text} {options : SplitOptions} {s : SplitterState} {c : Char}

/-- A byte splitter stands where a splitter stands, in a state that turns lead to. -/
structure Stands (source : Text) (options : SplitOptions) (s : SplitterState) : Prop where
  inOrder : InOrder source s.cursor s
  reached : Reached source options (s.inBytes source)

theorem stands_start (source : Text) (options : SplitOptions) : Stands source options {} where
  inOrder := inOrder_start source
  reached := by
    rw [SplitterState.inBytes_start]
    exact .start

/-- All bytes of a character that is not ASCII can be read. -/
theorem Reached.within (h : Reached source options (s.inBytes source))
    (hc : source[s.cursor]? = some c) (hle : 128 ≤ c.toNat) {read : Nat}
    (hread : read ≤ c.utf8Size) :
    Reached source options
      { s.inBytes source with cursor := Text.offset source s.cursor + read } := by
  induction read with
  | zero => exact h
  | succ read ih => exact (ih (Nat.le_of_succ_le hread)).turn (turn?_of_le hc hle hread)

/-- Reading a character leads to where the byte splitter stands behind its bytes. -/
theorem Stands.readChar (h : Stands source options s) (hc : source[s.cursor]? = some c) :
    Stands source options (readChar source options c s).2 := by
  have hstep := inOrder_readChar options h.inOrder hc
  refine ⟨(cursor_readChar source options c s).symm ▸ hstep, ?_⟩
  rcases Nat.lt_or_ge c.toNat 128 with hascii | hle
  · exact h.reached.turn (turn?_of_ascii h.inOrder hc hascii)
  · rw [readChar_of_le hle]
    have hlast := h.reached.within hc hle (Nat.le_refl _)
    rwa [← Text.offset_succ hc] at hlast

theorem Stands.conclude (h : Stands source options s) (hend : s.cursor = source.length) :
    Stands source options (conclude source options s).2 :=
  ⟨inOrder_conclude h.inOrder hend, h.reached.turn (turn?_of_conclude h.inOrder hend)⟩

/-- Bytes of characters that are not ASCII are read without a block. -/
theorem readOn?_append {bytes : List UInt8} (h : ∀ byte ∈ bytes, 128 ≤ byte.toNat)
    (rest : List UInt8) (s : SplitterState) :
    readOn? source options (bytes ++ rest) s =
      readOn? source options rest { s with cursor := s.cursor + bytes.length } := by
  induction bytes generalizing s with
  | nil => rfl
  | cons byte bytes ih =>
    obtain ⟨hbyte, hbytes⟩ := List.forall_mem_cons.1 h
    rw [List.cons_append, readOn?, readByte?_of_le hbyte]
    refine (ih hbytes _).trans ?_
    rw [List.length_cons, Nat.add_assoc, Nat.add_comm 1]

/-- The bytes of a character have its effect. -/
theorem readOn?_encode_cons (h : InOrder source s.cursor s) (hc : source[s.cursor]? = some c)
    (rest : Text) :
    readOn? source options (Text.encode (c :: rest)) (s.inBytes source) =
      match readChar source options c s with
      | (some block, s') => some (some block, s'.inBytes source)
      | (none, s') => readOn? source options (Text.encode rest) (s'.inBytes source) := by
  rw [Text.encode_cons]
  rcases Nat.lt_or_ge c.toNat 128 with hascii | hle
  · rw [Text.utf8EncodeChar_of_ascii hascii, List.singleton_append, readOn?,
      readByte?_of_ascii h hc hascii]
    generalize readChar source options c s = answer
    obtain ⟨_ | block, s'⟩ := answer <;> rfl
  · rw [readOn?_append (fun byte => Text.le_of_mem_utf8EncodeChar hle), readChar_of_le hle,
      String.length_utf8EncodeChar]
    change readOn? source options _
      { s.inBytes source with cursor := Text.offset source s.cursor + c.utf8Size } = _
    rw [← Text.offset_succ hc]
    rfl

/-- A byte splitter reads the bytes of a text as a splitter reads its characters. -/
theorem Stands.readOn {rest : Text} (h : Stands source options s)
    (hrest : source.drop s.cursor = rest) :
    readOn? source options (Text.encode rest) (s.inBytes source) =
        some (answerInBytes source (readOn source options rest s)) ∧
      Stands source options (readOn source options rest s).2 ∧
      ((readOn source options rest s).1 = none →
        (readOn source options rest s).2.cursor = source.length) := by
  -- on the characters that remain
  induction rest generalizing s with
  | nil =>
    have hge : source.length ≤ s.cursor := List.drop_eq_nil_iff.1 hrest
    exact ⟨rfl, h, fun _ => Nat.le_antisymm h.inOrder.bound_le hge⟩
  | cons c rest ih =>
    have hc : source[s.cursor]? = some c := by
      rw [← List.head?_drop, hrest]
      rfl
    have hnext := h.readChar hc
    have hdrop : source.drop (Splitter.readChar source options c s).2.cursor = rest := by
      rw [cursor_readChar, ← List.drop_drop, hrest]
      rfl
    rw [readOn?_encode_cons h.inOrder hc, Splitter.readOn]
    generalize Splitter.readChar source options c s = answer at hnext hdrop
    obtain ⟨_ | block, s'⟩ := answer
    · exact ih hnext hdrop
    · exact ⟨rfl, hnext, fun hnone => by cases hnone⟩

end Answers

/-! ## Runs of commands -/

section Runs

variable {source : Text} {options : SplitOptions}

/-- A splitter of the source, with a byte splitter where it stands. -/
structure Paired (source : Text) (options : SplitOptions) (l : Splitter) : Prop where
  source_eq : l.source = source
  options_eq : l.options = options
  stands : Stands source options l.state

theorem Paired.reached {l : Splitter} (h : Paired source options l) :
    Reached source options l.inBytes := by
  obtain ⟨rfl, -, hstands⟩ := h
  exact hstands.reached

theorem next?_eq {l : Splitter} (h : Paired source options l) :
    next? source options l.inBytes = some (l.next.1, l.next.2.inBytes) ∧
      Paired source options l.next.2 := by
  obtain ⟨source', options', s⟩ := l
  obtain ⟨rfl, rfl, hstands⟩ := h
  obtain ⟨hread, hread_stands, hend⟩ := hstands.readOn rfl
  have hdrop : (Text.encode source').drop (s.inBytes source').cursor =
      Text.encode (source'.drop s.cursor) := Text.drop_encode_offset source' s.cursor
  change next? source' options' (s.inBytes source') = _ ∧ _
  rw [next?, hdrop, hread, Splitter.next]
  generalize Splitter.readOn source' options' (source'.drop s.cursor) s = answer
    at hread_stands hend
  obtain ⟨_ | block, s'⟩ := answer
  · have hconclude := conclude?_eq options' hread_stands.inOrder (hend rfl)
    exact ⟨hconclude, rfl, rfl, hread_stands.conclude (hend rfl)⟩
  · exact ⟨rfl, rfl, rfl, hread_stands⟩

theorem attempt?_eq (n : Nat) {l : Splitter} (h : Paired source options l) :
    attempt? source options n l.inBytes = some ((l.attempt n).1, (l.attempt n).2.inBytes) ∧
      Paired source options (l.attempt n).2 := by
  induction n generalizing l with
  | zero => exact ⟨rfl, h⟩
  | succ n ih =>
    obtain ⟨hnext, hpaired⟩ := next?_eq h
    obtain ⟨hrest, hlast⟩ := ih hpaired
    rw [attempt?, hnext, Splitter.attempt]
    simp only [Option.bind_eq_bind, Option.bind_some, hrest]
    split
    · exact ⟨rfl, hpaired⟩
    · exact ⟨rfl, hlast⟩

theorem call?_eq {l : Splitter} (h : Paired source options l) (request : SplitterCall) :
    call? source options l.inBytes request =
        some ((l.call request).1, (l.call request).2.inBytes) ∧
      Paired source options (l.call request).2 := by
  cases request with
  | next =>
    obtain ⟨hnext, hpaired⟩ := next?_eq h
    rw [call?, hnext]
    exact ⟨rfl, hpaired⟩
  | iterate n => exact attempt?_eq n h
  | restart =>
    refine ⟨?_, h.source_eq, h.options_eq, stands_start source options⟩
    change some (_, _) = some (_, SplitterState.inBytes l.source {})
    rw [SplitterState.inBytes_start]
    rfl

theorem runCommand?_eq {pool : List Splitter} (h : ∀ l ∈ pool, Paired source options l)
    (command : SplitterCommand) :
    runCommand? source options (pool.map Splitter.inBytes) command =
        some ((Splitter.runCommand pool command).1,
          (Splitter.runCommand pool command).2.map Splitter.inBytes) ∧
      ∀ l ∈ (Splitter.runCommand pool command).2, Paired source options l := by
  cases command with
  | call i request =>
    rw [runCommand?, List.getElem?_map, Splitter.runCommand]
    cases hl : pool[i]? with
    | none => exact ⟨rfl, h⟩
    | some l =>
      obtain ⟨hcall, hpaired⟩ := call?_eq (h l (List.mem_of_getElem? hl)) request
      simp only [Option.map_some, hcall, Option.bind_eq_bind, Option.bind_some, List.map_set]
      refine ⟨trivial, fun l' hl' => ?_⟩
      rcases List.mem_or_eq_of_mem_set hl' with hl' | rfl
      · exact h l' hl'
      · exact hpaired
  | copy i =>
    rw [runCommand?, List.getElem?_map, Splitter.runCommand, List.map_append]
    refine ⟨?_, fun l hl => ?_⟩
    · cases pool[i]? <;> rfl
    · rcases List.mem_append.1 hl with hl | hl
      · exact h l hl
      · exact h l (List.mem_of_getElem? (Option.mem_toList.1 hl))

theorem runCommands?_eq (commands : List SplitterCommand) {pool : List Splitter}
    (h : ∀ l ∈ pool, Paired source options l) :
    runCommands? source options (pool.map Splitter.inBytes) commands =
        some ((Splitter.runCommands pool commands).1,
          (Splitter.runCommands pool commands).2.map Splitter.inBytes) ∧
      ∀ l ∈ (Splitter.runCommands pool commands).2, Paired source options l := by
  induction commands generalizing pool with
  | nil => exact ⟨rfl, h⟩
  | cons command commands ih =>
    obtain ⟨hcommand, hpaired⟩ := runCommand?_eq h command
    obtain ⟨hrest, hlast⟩ := ih hpaired
    rw [runCommands?, hcommand, Splitter.runCommands]
    simp only [Option.bind_eq_bind, Option.bind_some, hrest]
    exact ⟨trivial, hlast⟩

/-- In every state that a byte splitter comes to, between any two bytes that it reads, the marks
are well placed, the next turn is not refused, and a call goes on by turns up to the first that
completes a block. No run of commands to byte splitters of a source is refused: it gives the
answers that the same run of splitters gives, and the byte splitters stand where the splitters
stand, in states that turns lead to. -/
theorem runs_wellPlaced (source : Text) (options : SplitOptions) :
    (∀ s, Reached source options s →
      WellPlaced source s ∧
        ∃ block s', turn? source options s = some (block, s') ∧
          next? source options s =
            block.elim (next? source options s') fun block => some (block, s')) ∧
      ∀ commands,
        let run := Splitter.runCommands [.ofSource source options] commands
        runCommands? source options [{}] commands = some (run.1, run.2.map Splitter.inBytes) ∧
          ∀ l ∈ run.2, Reached source options l.inBytes ∧ l.inBytes.cursor = l.position := by
  refine ⟨fun s hreached => ?_, fun commands => ?_⟩
  · obtain ⟨s₀, read, hmirrors⟩ := hreached.mirrors
    obtain ⟨block, s', hturn, -, hcursor⟩ := hmirrors.goesOn options
    exact ⟨hmirrors.wellPlaced, block, s', hturn, next?_of_turn? hturn hcursor⟩
  · have hstart : Paired source options (.ofSource source options) :=
      ⟨rfl, rfl, stands_start source options⟩
    have hpool : ∀ l ∈ [Splitter.ofSource source options], Paired source options l :=
      List.forall_mem_singleton.2 hstart
    obtain ⟨hrun, hpaired⟩ := runCommands?_eq commands hpool
    have hbytes : [Splitter.ofSource source options].map Splitter.inBytes = [{}] :=
      congrArg (fun s => [s]) (SplitterState.inBytes_start source)
    rw [hbytes] at hrun
    exact ⟨hrun, fun l hl => ⟨(hpaired l hl).reached, rfl⟩⟩

/-- Between the two bytes of the first character the marks are well placed. The first block of the
copy is the second of the source, which leaves a string open. -/
theorem runs_wellPlaced_accent :
    let source : Text := ['é', ';', 'a', '{', '\'']
    let commands : List SplitterCommand :=
      [.call 0 .next, .copy 0, .call 0 .restart, .call 1 .next]
    WellPlaced source { cursor := 1 } ∧
      ∃ pool,
        runCommands? source {} [{}] commands =
          some ([[some ⟨.complete, 0, ['é'], none⟩], [], [],
            [some ⟨.recovered .string, 0, ['a'], some ['\'']⟩]], pool) ∧
        ∀ s ∈ pool, WellPlaced source s := by
  intro source commands
  obtain ⟨hreached, hrun⟩ := runs_wellPlaced source {}
  obtain ⟨hbytes, hpool⟩ := hrun commands
  have hanswers : (Splitter.runCommands [.ofSource source {}] commands).1 =
      [[some ⟨.complete, 0, ['é'], none⟩], [], [],
        [some ⟨.recovered .string, 0, ['a'], some ['\'']⟩]] := by
    decide +kernel
  rw [hanswers] at hbytes
  refine ⟨(hreached _ (.turn .start rfl)).1, _, hbytes, ?_⟩
  intro s hs
  obtain ⟨l, hl, rfl⟩ := List.mem_map.1 hs
  exact (hreached _ (hpool l hl).1).1

end Runs

end ByteSplitter

end SheetLex
