import SheetLex.Proofs.Block.Replacement

/-!
# Strings and parentheses are opaque

What stands in a string or between parentheses has no part in how a source is divided into blocks:
it can be replaced by anything else that reads as the inside of a string or of a pair of
parentheses (`Interchangeable`, `splitBlocks_opaque`). Only the texts of blocks change.

Inside a string or parentheses no piece ends. A comma or a line feed there begins no new run; a
parenthesis does, but it leaves the lead alone and withdraws the place at which the selector might
begin. So both insides leave the same situation behind (`Pending.Continues`), up to texts that end
with the same quote or parenthesis. These texts are not blank, whatever follows them.
-/

set_option autoImplicit false

namespace SheetLex

/-! ## Insides -/

namespace Balance

/-- A parenthesis is open before the text, and it stays open to the end of the text. -/
def Encloses (b : Balance) : Text → Prop
  | [] => 0 < b.parens
  | c :: t => 0 < b.parens ∧ (b.read c).Encloses t

instance decidableEncloses : (b : Balance) → (t : Text) → Decidable (b.Encloses t)
  | b, [] => inferInstanceAs (Decidable (0 < b.parens))
  | b, c :: t =>
    have := decidableEncloses (b.read c) t
    inferInstanceAs (Decidable (_ ∧ _))

end Balance

/-- The text reads as the inside of a pair of parentheses: it closes its strings and all the
parentheses that it opens, but not the one before it. -/
def FillsParens (t : Text) : Prop :=
  Balance.Encloses { parens := 1 } t ∧
    Balance.readAll { parens := 1 } t = { parens := 1 }

instance (t : Text) : Decidable (FillsParens t) := inferInstanceAs (Decidable (_ ∧ _))

/-- Texts that can take each other's place: two strings with the same quotes, or two pairs of
parentheses. -/
inductive Interchangeable : Text → Text → Prop where
  | strings (quote : Char) {s t : Text} : quote = '"' ∨ quote = '\'' → quote ∉ s → quote ∉ t →
      Interchangeable (quote :: (s ++ [quote])) (quote :: (t ++ [quote]))
  | parens {s t : Text} : FillsParens s → FillsParens t →
      Interchangeable ('(' :: (s ++ [')'])) ('(' :: (t ++ [')']))

/-- What is left of a block without its texts and its line number: how it came about, and whether
it is a rule. -/
def Block.outline (b : Block) : Completion × Bool := (b.status, b.isRule)

/-! ## Reading an inside -/

namespace Balance

variable {b : Balance} {c : Char} {q : Quote}

/-- Inside a string or parentheses no character ends a piece. -/
theorem spares_of_shut (h : b.quote ≠ none ∨ 0 < b.parens) (c : Char) : b.Spares c := by
  constructor
  · rintro rfl
    exact absurd h (by decide)
  · rintro rfl
    exact absurd h (by decide)

/-- In a string, what is not its quote opens and closes nothing. -/
theorem read_of_quote (hquote : b.quote = some q) (hc : Mark.of c ≠ .quote q) : b.read c = b := by
  rw [read, hquote]
  split
  · rename_i q' hsome hmark
    obtain rfl := Option.some.inj hsome
    split
    · rename_i heq
      rw [← heq] at hmark
      exact absurd hmark hc
    · rfl
  all_goals first | rfl | contradiction

/-- The same constructs inside more parentheses and braces. -/
def raise (parens depth : Nat) (b : Balance) : Balance :=
  { b with parens := b.parens + parens, depth := b.depth + depth }

/-- While a parenthesis is open, a character opens and closes the same inside more parentheses and
braces. -/
theorem read_raise (h : 0 < b.parens) (parens depth : Nat) (c : Char) :
    (b.raise parens depth).read c = (b.read c).raise parens depth := by
  obtain ⟨quote, _ | n, d⟩ := b
  · cases h
  cases quote with
  | some opened =>
    cases hmark : Mark.of c with
    | quote q => by_cases hq : opened = q <;> simp [read, raise, hmark, hq]
    | _ => simp [read, raise, hmark]
  | none =>
    cases hmark : Mark.of c with
    | leftParen => simp [read, raise, hmark, Nat.add_right_comm]
    | rightParen => simp [read, raise, hmark, Nat.add_right_comm]
    | _ => simp [read, raise, hmark]

/-- Within a parenthesis, a text ends no piece, and opens and closes the same inside more
parentheses and braces. -/
theorem Encloses.raise {t : Text} (h : b.Encloses t) (parens depth : Nat) :
    (b.raise parens depth).SparesAll t ∧
      (b.raise parens depth).readAll t = (b.readAll t).raise parens depth := by
  induction t generalizing b with
  | nil => exact ⟨trivial, rfl⟩
  | cons c t ih =>
    have hpos : 0 < (b.raise parens depth).parens := Nat.add_pos_left h.1 parens
    obtain ⟨hspares, hafter⟩ := ih h.2
    rw [SparesAll, readAll_cons, readAll_cons, read_raise h.1]
    exact ⟨⟨spares_of_shut (.inr hpos) c, hspares⟩, hafter⟩

end Balance

namespace Pending

variable {p q r : Pending} {b : Balance} {c : Char}

/-- What was read from the one pending text to the other has gone to the run, or to the held part if
the run may not become the selector by itself. -/
structure Continues (p q : Pending) : Prop where
  lead : q.lead = p.lead
  loose : q.loose = p.loose
  held : p.loose = true → q.held = p.held

theorem Continues.refl (p : Pending) : Continues p p := ⟨rfl, rfl, fun _ => rfl⟩

theorem Continues.trans (h : Continues p q) (h' : Continues q r) : Continues p r where
  lead := h'.lead.trans h.lead
  loose := h'.loose.trans h.loose
  held hloose := (h'.held (h.loose.trans hloose)).trans (h.held hloose)

theorem continues_add (p : Pending) (c : Char) : Continues p (p.add c) := ⟨rfl, rfl, fun _ => rfl⟩

theorem continues_hold (h : p.loose = false) (c : Char) : Continues p (p.hold c false) where
  lead := rfl
  loose := h.symm
  held hloose := by
    rw [h] at hloose
    cases hloose

theorem next_of_shut (h : b.quote ≠ none ∨ 0 < b.parens) (p : Pending) (c : Char) :
    p.next b c = p.absorb b c := by
  have hfree : b ≠ .free := by
    rintro rfl
    exact absurd h (by decide)
  rw [next, if_neg hfree]

/-- In a string the run goes on. -/
theorem nextAll_of_quote {quote : Quote} (hquote : b.quote = some quote) {t : Text}
    (ht : ∀ c ∈ t, Mark.of c ≠ .quote quote) (p : Pending) :
    b.SparesAll t ∧ b.readAll t = b ∧ p.Continues (p.nextAll b t) := by
  have hshut : b.quote ≠ none := by
    rw [hquote]
    exact Option.some_ne_none quote
  induction t generalizing p with
  | nil => exact ⟨trivial, rfl, .refl p⟩
  | cons c t ih =>
    have hread := Balance.read_of_quote hquote (ht c List.mem_cons_self)
    -- a parenthesis in a string begins no run
    have hnext : p.next b c = p.add c := by
      rw [next_of_shut (.inl hshut), absorb, if_neg fun h => hshut h.1]
    have htail : ∀ d ∈ t, Mark.of d ≠ .quote quote := fun d hd => ht d (List.mem_cons_of_mem c hd)
    obtain ⟨hspares, hafter, hcontinues⟩ := ih htail (p.add c)
    rw [Balance.SparesAll, Balance.readAll_cons, nextAll, hread, hnext]
    exact ⟨⟨Balance.spares_of_shut (.inl hshut) c, hspares⟩, hafter,
      (continues_add p c).trans hcontinues⟩

/-- Within a parenthesis the selector goes on. -/
theorem nextAll_of_encloses {b' : Balance} {t : Text} (h : b'.Encloses t) (parens depth : Nat)
    (hloose : p.loose = false) : p.Continues (p.nextAll (b'.raise parens depth) t) := by
  induction t generalizing p b' with
  | nil => exact .refl p
  | cons c t ih =>
    have hpos : 0 < (b'.raise parens depth).parens := Nat.add_pos_left h.1 parens
    -- an inner parenthesis begins a run, but before it nothing settles
    have hnext : p.Continues (p.next (b'.raise parens depth) c) := by
      rw [next_of_shut (.inr hpos), absorb]
      split
      · exact continues_hold hloose c
      · exact continues_add p c
    rw [nextAll, Balance.read_raise h.1]
    exact hnext.trans (ih h.2 (hnext.loose.trans hloose))

/-- Two pending texts that continue the same one can stand for each other behind a character that
is not blank. -/
theorem Continues.replaces_add (hq : Continues p q) (hr : Continues p r)
    (hdigit : c.isDigit = false) (hink : isBlankChar c = false) (rest : Text) :
    (q.add c).Replaces isBlank rest (r.add c) := by
  -- behind the character neither text is blank, and neither gets blank again
  have agree (s t : Text) : Text.Agree isBlank rest (s ++ [c]) (t ++ [c]) := by
    intro b hb
    rw [isBlank_eq_false_of_mem (by simp) hdigit hink,
      isBlank_eq_false_of_mem (by simp) hdigit hink]
  refine ⟨hq.loose.trans hr.loose.symm, ?_, ?_, agree q.run r.run, ?_, ?_, ?_⟩
  · change isBlank q.lead = isBlank r.lead
    rw [hq.lead, hr.lead]
  · intro hloose
    have hp : p.loose = true := hq.loose.symm.trans hloose
    change isBlank (q.lead ++ q.held) = isBlank (r.lead ++ r.held)
    rw [hq.lead, hr.lead, hq.held hp, hr.held hp]
  · rw [selector_add, selector_add]
    exact agree _ _
  · rw [text_add, text_add]
    exact agree _ _
  · intro _
    rw [text_add, text_add, List.getLast?_concat, List.getLast?_concat]

end Pending

/-! ## Reading a string or a pair of parentheses -/

/-- A text between two characters ends no piece and leaves open what was open before it. Outside
rules, it continues what the first character has begun, up to the last character. -/
structure Swallows (b : Balance) (first last : Char) (t : Text) : Prop where
  spares : b.SparesAll (first :: (t ++ [last]))
  readAll : b.readAll (first :: (t ++ [last])) = b
  nextAll : ∀ p : Pending, ∃ q, (p.next b first).Continues q ∧
    p.nextAll b (first :: (t ++ [last])) = q.add last

section Swallows

variable {b b' : Balance} {first last : Char} {t : Text}

/-- The first character opens something, the text stays in it, and the last one closes it. -/
theorem swallows_of (hfirst : b.Spares first) (hopen : b.read first = b')
    (ht : b'.SparesAll t) (hstays : b'.readAll t = b')
    (hcontinues : ∀ p : Pending, (p.next b first).Continues ((p.next b first).nextAll b' t))
    (hshut : b'.quote ≠ none ∨ 0 < b'.parens) (hclose : b'.read last = b)
    (hlast : b'.quote = none → Mark.of last ≠ .leftParen) : Swallows b first last t where
  spares := by
    rw [Balance.SparesAll, hopen, Balance.sparesAll_append, hstays]
    exact ⟨hfirst, ht, Balance.spares_of_shut hshut last, trivial⟩
  readAll := by
    rw [Balance.readAll_cons, hopen, Balance.readAll_append, hstays, Balance.readAll_cons, hclose]
    rfl
  nextAll p := by
    refine ⟨(p.next b first).nextAll b' t, hcontinues p, ?_⟩
    rw [Pending.nextAll, hopen, Pending.nextAll_append, hstays, Pending.nextAll, Pending.nextAll,
      Pending.next_of_shut hshut, Pending.absorb, if_neg fun h => hlast h.1 h.2]

theorem swallows_string {quote : Char} {q : Quote} (hmark : Mark.of quote = .quote q)
    (hquote : b.quote = none) (ht : quote ∉ t) : Swallows b quote quote t := by
  have hspares : b.Spares quote := by
    constructor
    · intro _
      constructor
      · rintro rfl
        cases hmark
      · rintro rfl
        cases hmark
    · rintro - rfl
      cases hmark
  have hopen : b.read quote = { b with quote := some q } := by
    rw [Balance.read, hquote, hmark]
  have hclose : Balance.read { b with quote := some q } quote = b := by
    rw [Balance.read, hmark]
    simp [← hquote]
  -- every other character in the string is not the quote
  have hother : ∀ c ∈ t, Mark.of c ≠ .quote q := by
    rintro c hc hmark'
    cases q with
    | single =>
      rw [Mark.eq_of_of_eq hmark rfl] at ht
      rw [Mark.eq_of_of_eq hmark' rfl] at hc
      exact ht hc
    | double =>
      rw [Mark.eq_of_of_eq hmark rfl] at ht
      rw [Mark.eq_of_of_eq hmark' rfl] at hc
      exact ht hc
  obtain ⟨hall, hstays, -⟩ :=
    Pending.nextAll_of_quote (b := { b with quote := some q }) rfl hother {}
  apply swallows_of hspares hopen hall hstays
  · intro p
    exact (Pending.nextAll_of_quote rfl hother _).2.2
  · exact .inl (Option.some_ne_none q)
  · exact hclose
  · intro hnone
    cases hnone

theorem swallows_parens (hquote : b.quote = none) (ht : FillsParens t) :
    Swallows b '(' ')' t := by
  obtain ⟨hencloses, hback⟩ := ht
  -- what is open in the parentheses, as what is open in a single pair, inside what is open before
  have hraise : b.read '(' = Balance.raise b.parens b.depth { parens := 1 } := by
    rw [Balance.read, hquote]
    change Balance.mk none (b.parens + 1) b.depth = _
    rw [Balance.raise, Nat.zero_add, Nat.add_comm 1]
  have hspares : b.Spares '(' := ⟨fun _ => by decide, fun _ => by decide⟩
  obtain ⟨hall, hafter⟩ := hencloses.raise b.parens b.depth
  rw [hback] at hafter
  apply swallows_of hspares hraise hall hafter
  · intro p
    apply Pending.nextAll_of_encloses hencloses
    -- the opening parenthesis has begun a run that may not become the selector by itself
    have hnext : p.next b '(' = p.hold '(' false := by
      have habsorb : p.absorb b '(' = p.hold '(' false := if_pos ⟨hquote, rfl⟩
      rw [Pending.next]
      split
      · exact habsorb
      · exact habsorb
    rw [hnext]
    rfl
  · exact .inr (Nat.add_pos_left Nat.one_pos b.parens)
  · obtain ⟨quote, parens, depth⟩ := b
    simp only at hquote
    subst hquote
    simp [Balance.read, Balance.raise, show Mark.of ')' = .rightParen from rfl]
  · intro _
    decide

end Swallows

/-! ## Replacing an inside by another one -/

/-- Interchangeable texts between the same characters. -/
theorem Interchangeable.exists_swallows {m m' : Text} (h : Interchangeable m m') {b : Balance}
    (hquote : b.quote = none) :
    ∃ first last s t, m = first :: (s ++ [last]) ∧ m' = first :: (t ++ [last]) ∧
      Swallows b first last s ∧ Swallows b first last t ∧
      last.isDigit = false ∧ isBlankChar last = false := by
  cases h with
  | @strings quote s t hkind hs ht =>
    refine ⟨quote, quote, s, t, rfl, rfl, ?_⟩
    rcases hkind with rfl | rfl
    · exact ⟨swallows_string (q := .double) rfl hquote hs,
        swallows_string (q := .double) rfl hquote ht, rfl, rfl⟩
    · exact ⟨swallows_string (q := .single) rfl hquote hs,
        swallows_string (q := .single) rfl hquote ht, rfl, rfl⟩
  | @parens s t hs ht =>
    exact ⟨'(', ')', s, t, rfl, rfl, swallows_parens hquote hs, swallows_parens hquote ht, rfl, rfl⟩

/-- Interchangeable texts outside strings leave the same behind them, their own characters apart. -/
theorem Interchangeable.view_pieces {m m' : Text} (h : Interchangeable m m') {x : Text}
    (hquote : (Balance.after x).quote = none) (y : Text) :
    (pieces (x ++ m ++ y)).map (Piece.view isBlank fun _ => ()) =
      (pieces (x ++ m' ++ y)).map (Piece.view isBlank fun _ => ()) := by
  obtain ⟨first, last, s, t, rfl, rfl, hs, ht, hdigit, hink⟩ := h.exists_swallows hquote
  apply view_pieces_congr (fun _ _ h => h) hs.spares ht.spares (hs.readAll.trans ht.readAll.symm)
  cases (({} : Cutter).after x).place with
  | outside p =>
    obtain ⟨q, hq, hnext⟩ := hs.nextAll p
    obtain ⟨r, hr, hnext'⟩ := ht.nextAll p
    rw [Place.grow, Place.grow, hnext, hnext']
    exact .outside (hq.replaces_add hr hdigit hink y)
  | inside selector body =>
    -- in a body only the body grows, and nothing of it is looked at
    exact .inside rfl fun _ _ => rfl

/-- Behind a text that does not end in a string, a string can be replaced by any other one with the
same quotes, and a pair of parentheses by any other one. The pass hands out as many blocks, with
the same statuses, and the same of them are rules. -/
theorem splitBlocks_opaque {x m m' : Text} (hquote : (Balance.after x).quote = none)
    (h : Interchangeable m m') (y : Text) (options : SplitOptions) :
    (splitBlocks (x ++ m ++ y) options).map Block.outline =
      (splitBlocks (x ++ m' ++ y) options).map Block.outline := by
  rw [splitBlocks_eq_report, splitBlocks_eq_report]
  apply map_report_congr (R := fun _ _ => True) (fun _ _ h => h) ?_
    (h.view_pieces hquote y) trivial
  intro p q hview line line' _
  obtain ⟨-, hrest⟩ := Prod.mk.inj hview
  obtain ⟨hbody, hcause⟩ := Prod.mk.inj hrest
  have hrule : (p.body.map options.bodyText).isSome = (q.body.map options.bodyText).isSome := by
    rw [Option.isSome_map, Option.isSome_map, ← Option.isSome_map (f := fun _ => ()), hbody,
      Option.isSome_map]
  refine ⟨?_, trivial⟩
  simp only [Block.outline, Block.isRule, Piece.block, hcause, hrule]

/-- Parentheses around what would otherwise end two pieces, in place of empty ones; and an empty
string in the body of a rule, in place of one with a closing brace in it. -/
theorem splitBlocks_opaque_insides :
    let x : Text := ['u', ',', '\n']
    let m : Text := ['(', ';', '\n', '(', ')', '"', ')', '"', '{', ')']
    let x' : Text := ['a', '{', '(']
    let m' : Text := ['"', '}', ')', '"']
    ((Balance.after x).quote = none ∧ Interchangeable ['(', ')'] m ∧
      (splitBlocks (x ++ ['(', ')'] ++ ['{', '}']) {}).map Block.outline =
        (splitBlocks (x ++ m ++ ['{', '}']) {}).map Block.outline) ∧
      (Balance.after x').quote = none ∧ Interchangeable ['"', '"'] m' ∧
      (splitBlocks (x' ++ ['"', '"'] ++ [')', '}', ';']) {}).map Block.outline =
        (splitBlocks (x' ++ m' ++ [')', '}', ';']) {}).map Block.outline := by
  intro x m x' m'
  have hx : (Balance.after x).quote = none := by decide
  have hx' : (Balance.after x').quote = none := by decide
  have hm : Interchangeable ['(', ')'] m := by
    apply Interchangeable.parens (s := []) (t := [';', '\n', '(', ')', '"', ')', '"', '{'])
    · decide
    · decide
  have hm' : Interchangeable ['"', '"'] m' := by
    apply Interchangeable.strings '"' (s := []) (t := ['}', ')'])
    · exact .inl rfl
    · decide
    · decide
  exact ⟨⟨hx, hm, splitBlocks_opaque hx hm _ {}⟩, hx', hm', splitBlocks_opaque hx' hm' _ {}⟩

end SheetLex
