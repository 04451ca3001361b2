import SheetLex.Proofs.Block.Calls
import SheetLex.Proofs.Block.Concatenation
import SheetLex.Proofs.Text.Encoding

/-!
# Open constructs counted byte by byte

`Balance.ofBytes` counts the open constructs of a source in its UTF-8 form, with three variables
and one look at each byte. It comes to the same as the count by characters
(`Balance.ofBytes_encode`), which a splitter keeps whatever blocks it hands out meanwhile
(`balance_stateBehind`) and from which a pass takes its report (`Reports.exists_iff`).

A splitter stops at the end of a block. There it is in the state in which reading without stopping
would have put it, unless everything has been handed out (`between_behind`); in the latter case
nothing was open at the end of the source, or the last call has just reported it.
-/

set_option autoImplicit false

namespace SheetLex

open Splitter

/-! ## The count of the bytes -/

/-- The byte of a quote. -/
def Quote.byte : Quote → UInt8
  | .single => '\''.toUInt8
  | .double => '"'.toUInt8

namespace Balance

/-- Read a byte. A NUL is passed over. Inside a string only its own quote counts; outside strings
quotes and parentheses count, and outside parentheses braces do. What closes nothing does not
count. -/
def readByte (b : Balance) (byte : UInt8) : Balance :=
  if byte = hintMark.toUInt8 then b
  else
    match b.quote with
    | some opened => if byte = opened.byte then { b with quote := none } else b
    | none =>
      if byte = Quote.double.byte then { b with quote := some .double }
      else if byte = Quote.single.byte then { b with quote := some .single }
      else if byte = '('.toUInt8 then { b with parens := b.parens + 1 }
      else if byte = ')'.toUInt8 ∧ 0 < b.parens then { b with parens := b.parens - 1 }
      else if byte = '{'.toUInt8 ∧ b.parens = 0 then { b with depth := b.depth + 1 }
      else if byte = '}'.toUInt8 ∧ b.parens = 0 ∧ 0 < b.depth then
        { b with depth := b.depth - 1 }
      else b

/-- What is open behind bytes. -/
def ofBytes (bytes : List UInt8) : Balance := bytes.foldl readByte free

/-- The characters that count. -/
def counted : List Char := ['"', '\'', '(', ')', '{', '}']

theorem toNat_lt_of_mem_counted {c : Char} (h : c ∈ counted) : c.toNat < 128 := by
  simp only [counted, List.mem_cons, List.not_mem_nil, or_false] at h
  rcases h with rfl | rfl | rfl | rfl | rfl | rfl <;> decide

theorem read_of_not_mem (b : Balance) {c : Char} (h : c ∉ counted) : b.read c = b := by
  simp only [counted, List.mem_cons, List.not_mem_nil, or_false, not_or] at h
  obtain ⟨hdouble, hsingle, hleft, hright, hopen, hclose⟩ := h
  have hmark : Mark.of c = .semicolon ∨ Mark.of c = .comma ∨ Mark.of c = .lineFeed ∨
      Mark.of c = .plain := by
    rw [Mark.of, if_neg hdouble, if_neg hsingle, if_neg hleft, if_neg hright, if_neg hopen,
      if_neg hclose]
    split_ifs <;> simp
  rw [read]
  rcases hmark with hmark | hmark | hmark | hmark <;> rw [hmark] <;> cases b.quote <;> rfl

theorem readByte_of_not_mem (b : Balance) {byte : UInt8}
    (h : byte ∉ counted.map Char.toUInt8) : b.readByte byte = b := by
  simp only [counted, List.map_cons, List.map_nil, List.mem_cons, List.not_mem_nil, or_false,
    not_or] at h
  obtain ⟨hdouble, hsingle, hleft, hright, hopen, hclose⟩ := h
  have hquote (q : Quote) : byte ≠ q.byte := by
    cases q with
    | single => exact hsingle
    | double => exact hdouble
  rw [readByte]
  by_cases hnul : byte = hintMark.toUInt8
  · rw [if_pos hnul]
  · obtain ⟨quote, parens, depth⟩ := b
    rw [if_neg hnul]
    cases quote with
    | some opened => exact if_neg (hquote opened)
    | none => simp only [hquote, hleft, hright, hopen, hclose, false_and, if_false]

theorem readByte_of_ascii (b : Balance) {c : Char} (h : c.toNat < 128) :
    b.readByte c.toUInt8 = b.read c := by
  by_cases hc : c ∈ counted
  · obtain ⟨quote, parens, depth⟩ := b
    simp only [counted, List.mem_cons, List.not_mem_nil, or_false] at hc
    -- what closes something may find nothing to close
    rcases hc with rfl | rfl | rfl | rfl | rfl | rfl
    all_goals
      rcases quote with _ | _ | _ <;> cases parens <;> cases depth <;> rfl
  · have hbyte : c.toUInt8 ∉ counted.map Char.toUInt8 := by
      rintro hmem
      obtain ⟨d, hd, heq⟩ := List.mem_map.1 hmem
      rw [(Text.toUInt8_eq_iff (toNat_lt_of_mem_counted hd) h).1 heq] at hd
      exact hc hd
    rw [readByte_of_not_mem b hbyte, read_of_not_mem b hc]

/-- No byte of a character that is not ASCII counts. -/
theorem readByte_of_le (b : Balance) {byte : UInt8} (h : 128 ≤ byte.toNat) :
    b.readByte byte = b := by
  apply readByte_of_not_mem
  intro hmem
  obtain ⟨c, hc, rfl⟩ := List.mem_map.1 hmem
  have hascii := toNat_lt_of_mem_counted hc
  have hbyte : c.toUInt8.toNat = c.toNat % 256 := rfl
  omega

theorem read_of_le (b : Balance) {c : Char} (h : 128 ≤ c.toNat) : b.read c = b :=
  b.read_of_not_mem fun hmem => Nat.not_lt_of_le h (toNat_lt_of_mem_counted hmem)

theorem ofBytes_encode (t : Text) : ofBytes (Text.encode t) = after t :=
  Text.foldl_encode (fun b _ h => b.readByte_of_ascii h) (fun b _ h => b.readByte_of_le h)
    (fun b _ h => b.read_of_le h) free t

section Take

variable {source x rest : Text}

theorem ofBytes_take (h : source = x ++ rest) :
    ofBytes ((Text.encode source).take (Text.byteLength x)) = after x := by
  rw [h, Text.encode_append, ← Text.length_encode, List.take_left, ofBytes_encode]

/-- Inside a character the count stands still. -/
theorem ofBytes_take_add {c : Char} (h : source = x ++ c :: rest) {k : Nat} (hk : k < c.utf8Size) :
    ofBytes ((Text.encode source).take (Text.byteLength x + k)) =
      ofBytes ((Text.encode source).take (Text.byteLength x)) := by
  rw [ofBytes_take h, h, Text.encode_append, ← Text.length_encode, List.take_length_add_append,
    ofBytes, List.foldl_append]
  change ((Text.encode (c :: rest)).take k).foldl readByte (ofBytes (Text.encode x)) = after x
  have htake : (Text.encode (c :: rest)).take k = (String.utf8EncodeChar c).take k := by
    rw [← String.length_utf8EncodeChar] at hk
    exact List.take_append_of_le_length (Nat.le_of_lt hk)
  rw [htake, ofBytes_encode]
  rcases Nat.lt_or_ge c.toNat 128 with hc | hc
  · -- a single byte, of which nothing has been read
    rw [← String.length_utf8EncodeChar, Text.utf8EncodeChar_of_ascii hc] at hk
    obtain rfl : k = 0 := Nat.lt_one_iff.1 hk
    rfl
  · exact Text.foldl_take_utf8EncodeChar (fun b _ h => b.readByte_of_le h) hc _ k

end Take

/-! ## Priorities of reports -/

section Priorities

variable (b : Balance)

theorem openConstruct?_eq_parenthesis_iff :
    b.openConstruct? = some .parenthesis ↔ 0 < b.parens := by
  obtain ⟨quote, parens, depth⟩ := b
  cases quote <;> cases parens <;> cases depth <;> simp [openConstruct?]

theorem openConstruct?_eq_string_iff :
    b.openConstruct? = some .string ↔ b.parens = 0 ∧ b.quote.isSome = true := by
  obtain ⟨quote, parens, depth⟩ := b
  cases quote <;> cases parens <;> cases depth <;> simp [openConstruct?]

theorem openConstruct?_eq_block_iff :
    b.openConstruct? = some .block ↔ b.parens = 0 ∧ b.quote = none ∧ 0 < b.depth := by
  obtain ⟨quote, parens, depth⟩ := b
  cases quote <;> cases parens <;> cases depth <;> simp [openConstruct?]

theorem isSome_openConstruct?_iff :
    b.openConstruct?.isSome = true ↔ 0 < b.parens ∨ b.quote.isSome = true ∨ 0 < b.depth := by
  obtain ⟨quote, parens, depth⟩ := b
  cases quote <;> cases parens <;> cases depth <;> simp [openConstruct?]

end Priorities

end Balance

/-! ## The states of a splitter -/

namespace Splitter

section States

variable (source : Text) (options : SplitOptions)

theorem cursor_stateBehind (t : Text) : (stateBehind source options t).cursor = t.length := by
  induction t using List.reverseRecOn with
  | nil => rfl
  | append_singleton t c ih =>
    rw [stateBehind_concat, cursor_readChar, ih, List.length_append, List.length_singleton]

/-- Whatever a splitter has handed out, what it takes to be open is what the scan counts. -/
theorem balance_stateBehind (t : Text) :
    (stateBehind source options t).balance = Balance.after t := by
  induction t using List.reverseRecOn with
  | nil => rfl
  | append_singleton t c ih =>
    rw [stateBehind_concat, balance_readChar, ih, Balance.after_concat]

/-- A call reads on behind a character, or ends there with a block. -/
theorem next_stateBehind {source : Text} {x rest : Text} {c : Char} (h : source = x ++ c :: rest) :
    next ⟨source, options, stateBehind source options x⟩ =
        next ⟨source, options, stateBehind source options (x ++ [c])⟩ ∨
      ∃ b, next ⟨source, options, stateBehind source options x⟩ =
        (b, ⟨source, options, stateBehind source options (x ++ [c])⟩) := by
  have hdrop : source.drop (stateBehind source options x).cursor = c :: rest := by
    rw [cursor_stateBehind, h, List.drop_left]
  have hrest : source.drop (stateBehind source options (x ++ [c])).cursor = rest := by
    rw [cursor_stateBehind, h, List.append_cons x c rest, List.drop_left]
  cases hread : readChar source options c (stateBehind source options x) with
  | mk block s' =>
    obtain rfl : stateBehind source options (x ++ [c]) = s' := by
      rw [stateBehind_concat, hread]
    cases block with
    | none => exact .inl (next_of_readChar_none hdrop hread hrest)
    | some b => exact .inr ⟨b, next_of_readChar_some hdrop hread⟩

/-- What a splitter does at the end of its source: it starts over, or it hands out the last block
with the report on what is open. -/
theorem conclude_stateBehind :
    (conclude source options (stateBehind source options source)).2 = {} ∨
      AtEnd source (conclude source options (stateBehind source options source)).2 ∧
        (conclude source options (stateBehind source options source)).1.error? =
          (Balance.after source).openConstruct? := by
  have hrep : Represents source [] (stateBehind source options source)
      (({} : Cutter).after source) := represents_stateBehind options (List.append_nil source).symm
  rcases conclude_eq options hrep with ⟨-, hend⟩ | ⟨-, s', hblock, -, hend⟩
  · exact .inl (congrArg Prod.snd hend)
  · rw [hblock]
    refine .inr ⟨hend, ?_⟩
    rw [(describes_block _ options _).error, Cutter.cause_lastPiece, Cutter.balance_after_start]

end States

/-- Where a splitter stands between two calls, given what the last block has reported: behind a
beginning of its source, or at the end with everything handed out and everything open reported. -/
inductive Between (source : Text) (options : SplitOptions) (report : Option OpenConstruct) :
    SplitterState → Prop where
  | reading (x rest : Text) : source = x ++ rest →
      Between source options report (stateBehind source options x)
  | handedOut (s : SplitterState) : AtEnd source s →
      report = (Balance.after source).openConstruct? → Between source options report s

section Between

variable {source : Text} {options : SplitOptions} {report : Option OpenConstruct}
variable {s : SplitterState}

/-- Before the end of the source, a splitter is where reading without stopping leads. -/
theorem Between.state_eq (h : Between source options report s) (hlt : s.cursor < source.length) :
    s = stateBehind source options (source.take s.cursor) := by
  cases h with
  | reading x rest h => rw [cursor_stateBehind, h, List.take_left]
  | handedOut _ hend hreport => exact absurd hend.cursor (Nat.ne_of_lt hlt)

/-- A splitter has counted what it has read, unless a report has closed everything. -/
theorem Between.balance_eq (h : Between source options report s) :
    s.balance = Balance.after (source.take s.cursor) ∨ report.isSome = true := by
  cases h with
  | reading x rest h =>
    refine .inl ?_
    rw [balance_stateBehind, cursor_stateBehind, h, List.take_left]
  | handedOut _ hend hreport =>
    cases hopen : (Balance.after source).openConstruct? with
    | none =>
      -- nothing was open, so closing everything has changed nothing
      refine .inl ?_
      rw [hend.balance, hend.cursor, List.take_length]
      exact ((Balance.openConstruct?_eq_none_iff _).1 hopen).symm
    | some cause => exact .inr (Option.isSome_of_eq_some (hreport.trans hopen))

end Between

/-- A call from behind a beginning of the source. -/
theorem between_next (options : SplitOptions) {source x rest : Text} (h : source = x ++ rest) :
    ∃ b s', next ⟨source, options, stateBehind source options x⟩ = (b, ⟨source, options, s'⟩) ∧
      Between source options b.error? s' := by
  -- induction on what remains: a character completes a block, or the call goes on behind it
  induction rest generalizing x with
  | nil =>
    obtain rfl : source = x := h.trans (List.append_nil x)
    refine ⟨(conclude source options (stateBehind source options source)).1,
      (conclude source options (stateBehind source options source)).2, ?_, ?_⟩
    · rw [next]
      simp only
      rw [cursor_stateBehind, List.drop_length, readOn]
    · rcases conclude_stateBehind source options with hstart | ⟨hend, herror⟩
      · rw [hstart]
        exact .reading [] source rfl
      · exact .handedOut _ hend herror
  | cons c rest ih =>
    have hconcat : source = x ++ [c] ++ rest := by rw [h, List.append_assoc]; rfl
    rcases next_stateBehind options h with hnext | ⟨b, hnext⟩
    · rw [hnext]
      exact ih hconcat
    · exact ⟨b, _, hnext, .reading (x ++ [c]) rest hconcat⟩

/-- A splitter comes past every beginning of its source: reading on from there is what one of its
calls does. -/
theorem exists_next_behind (options : SplitOptions) {source x : Text} :
    ∀ {rest : Text}, source = x ++ rest →
      ∃ n, ((ofSource source options).behind n).next =
        next ⟨source, options, stateBehind source options x⟩ := by
  induction x using List.reverseRecOn with
  | nil => exact fun _ => ⟨0, rfl⟩
  | append_singleton x c ih =>
    intro rest h
    have hsplit : source = x ++ c :: rest := by rw [h, List.append_assoc]; rfl
    obtain ⟨n, hn⟩ := ih hsplit
    rcases next_stateBehind options hsplit with hnext | ⟨b, hnext⟩
    · exact ⟨n, hn.trans hnext⟩
    · refine ⟨n + 1, ?_⟩
      rw [behind_succ, hn, hnext]

/-- What the last of so many calls has reported. -/
def lastReport (l : Splitter) : Nat → Option OpenConstruct
  | 0 => none
  | n + 1 => (l.answer n).error?

/-- A splitter between two calls, in whatever pass. -/
theorem between_behind (source : Text) (options : SplitOptions) (n : Nat) :
    ∃ s, (ofSource source options).behind n = ⟨source, options, s⟩ ∧
      Between source options ((ofSource source options).lastReport n) s := by
  induction n with
  | zero => exact ⟨{}, rfl, .reading [] source rfl⟩
  | succ n ih =>
    obtain ⟨s, hbehind, hbetween⟩ := ih
    rw [behind_succ, lastReport, answer, hbehind]
    cases hbetween with
    | reading x rest h =>
      obtain ⟨b, s', hnext, hbetween⟩ := between_next options h
      rw [hnext]
      exact ⟨s', rfl, hbetween⟩
    | handedOut _ hend hreport =>
      rw [next_of_atEnd hend]
      exact ⟨{}, rfl, .reading [] source rfl⟩

/-! ## Reports and counts -/

/-- A pass reports an error exactly if the count of the bytes of the source ends with something
open: a parenthesis if one is, else a string if one is, else a block. At every byte up to the end
the splitter has counted what the bytes before it count: behind each beginning of the source, past
which some call comes; inside a character, where the count stands still; and wherever a call
stops, in whatever pass. Once a call has reported what is open, everything is closed. -/
theorem reports_of_bytes (source : Text) (options : SplitOptions) :
    let scan := Balance.ofBytes (Text.encode source)
    let scanned (k : Nat) := Balance.ofBytes ((Text.encode source).take k)
    let reported (cause : OpenConstruct) :=
      ∃ b ∈ splitBlocks source options, b.error? = some cause
    let l := ofSource source options
    ((∃ b ∈ splitBlocks source options, b.error?.isSome = true) ↔
        0 < scan.parens ∨ scan.quote.isSome = true ∨ 0 < scan.depth) ∧
      (reported .parenthesis ↔ 0 < scan.parens) ∧
      (reported .string ↔ scan.parens = 0 ∧ scan.quote.isSome = true) ∧
      (reported .block ↔ scan.parens = 0 ∧ scan.quote = none ∧ 0 < scan.depth) ∧
      (∀ x rest, source = x ++ rest →
        (stateBehind source options x).cursor = x.length ∧
        (stateBehind source options x).balance = scanned (Text.byteLength x) ∧
        ∃ n, (l.behind n).next = next ⟨source, options, stateBehind source options x⟩) ∧
      (∀ x c rest k, source = x ++ c :: rest → k < c.utf8Size →
        scanned (Text.byteLength x + k) = scanned (Text.byteLength x)) ∧
      ∀ n, ((l.behind n).state.cursor < source.length →
          (l.behind n).state =
            stateBehind source options (source.take (l.behind n).state.cursor)) ∧
        ((l.behind n).state.balance = scanned (l.behind n).position ∨
          ∃ m, n = m + 1 ∧ (l.answer m).error?.isSome = true) := by
  intro scan scanned reported l
  have hreports := reports_after options source
  have hscan : scan = Balance.after source := Balance.ofBytes_encode source
  refine ⟨?_, ?_, ?_, ?_, ?_, ?_, ?_⟩
  · rw [hscan, ← Balance.isSome_openConstruct?_iff]
    exact hreports.exists_isSome_iff
  · rw [hscan, ← Balance.openConstruct?_eq_parenthesis_iff]
    exact hreports.exists_iff .parenthesis
  · rw [hscan, ← Balance.openConstruct?_eq_string_iff]
    exact hreports.exists_iff .string
  · rw [hscan, ← Balance.openConstruct?_eq_block_iff]
    exact hreports.exists_iff .block
  · intro x rest h
    refine ⟨cursor_stateBehind source options x, ?_, exists_next_behind options h⟩
    rw [balance_stateBehind]
    exact (Balance.ofBytes_take h).symm
  · intro x c rest k h hk
    exact Balance.ofBytes_take_add h hk
  · intro n
    obtain ⟨s, hbehind, hbetween⟩ := between_behind source options n
    rw [position, hbehind]
    refine ⟨hbetween.state_eq, ?_⟩
    rcases hbetween.balance_eq with hbalance | hreport
    · refine .inl (hbalance.trans ?_)
      exact (Balance.ofBytes_take (List.take_append_drop s.cursor source).symm).symm
    · -- only a call can have reported something
      cases n with
      | zero => cases hreport
      | succ m => exact .inr ⟨m, rfl, hreport⟩

/-- A string in a parenthesis in a rule, all left open: the parenthesis is reported, and the string
is not. The first character takes two bytes. -/
theorem reports_of_bytes_parenthesis :
    let source : Text := ['é', '{', '(', '"']
    (∃ b ∈ splitBlocks source {}, b.error? = some .parenthesis) ∧
      ¬ (∃ b ∈ splitBlocks source {}, b.error? = some .string) ∧
      (stateBehind source {} ['é', '{']).balance =
        Balance.ofBytes ((Text.encode source).take 3) ∧
      Balance.ofBytes ((Text.encode source).take 1) =
        Balance.ofBytes ((Text.encode source).take 0) ∧
      ((ofSource source {}).behind 2).state = stateBehind source {} [] := by
  intro source
  obtain ⟨-, hparenthesis, hstring, -, hstates, hwithin, hcalls⟩ := reports_of_bytes source {}
  refine ⟨hparenthesis.2 (by decide +kernel), ?_, (hstates ['é', '{'] ['(', '"'] rfl).2.1,
    hwithin [] 'é' ['{', '(', '"'] 1 rfl (by decide +kernel), ?_⟩
  · intro h
    exact absurd (hstring.1 h).1 (by decide +kernel)
  · have hcursor : ((ofSource source {}).behind 2).state.cursor = 0 := by decide +kernel
    rw [(hcalls 2).1 (by rw [hcursor]; decide), hcursor]
    rfl

end Splitter

end SheetLex
