import SheetLex.Proofs.Block.Tiling

/-!
# The body of a rule as a source of its own

Inside a rule the scan of open constructs stands one pair of braces deeper than a scan of the body
by itself (`Balance.deepen`). The two go on side by side as long as the body stays within its
braces, that is, as long as no brace in it closes more than the body has opened
(`Balance.StaysWithin`). The body of every rule does (`body_of_mem_pieces`), so what is open at its
end can be read off the body alone. White space opens and closes nothing, so trimming a body
changes none of this.
-/

set_option autoImplicit false

namespace SheetLex

namespace Balance

/-! ## One pair of braces deeper -/

/-- The same constructs inside one more pair of braces. -/
def deepen (b : Balance) : Balance := { b with depth := b.depth + 1 }

@[simp] theorem deepen_inj {b b' : Balance} : b.deepen = b'.deepen ↔ b = b' := by
  obtain ⟨quote, parens, depth⟩ := b
  obtain ⟨quote', parens', depth'⟩ := b'
  simp [deepen]

/-- Inside one more pair of braces there is something to report in any case. -/
theorem openConstruct?_deepen (b : Balance) :
    b.deepen.openConstruct? = some (b.openConstruct?.getD .block) := by
  obtain ⟨quote, parens, depth⟩ := b
  cases quote with
  | none => cases parens <;> cases depth <;> simp [openConstruct?, deepen]
  | some q => cases parens <;> simp [openConstruct?, deepen]

/-- The character is a closing brace where nothing is open. -/
def Escapes (b : Balance) (c : Char) : Prop := b = .free ∧ Mark.of c = .rightBrace

instance (b : Balance) (c : Char) : Decidable (b.Escapes c) := inferInstanceAs (Decidable (_ ∧ _))

/-- A character opens and closes the same inside one more pair of braces, unless it closes that
pair. -/
theorem read_deepen {b : Balance} {c : Char} (h : ¬ b.Escapes c) :
    b.deepen.read c = (b.read c).deepen := by
  obtain ⟨quote, parens, depth⟩ := b
  cases quote with
  | some opened =>
    cases hmark : Mark.of c with
    | quote q =>
      by_cases hq : opened = q
      · simp [read, deepen, hmark, hq]
      · simp [read, deepen, hmark, hq]
    | _ => simp [read, deepen, hmark]
  | none =>
    cases hmark : Mark.of c with
    | leftBrace => cases parens <;> simp [read, deepen, hmark]
    | rightBrace =>
      cases parens with
      | succ n => simp [read, deepen, hmark]
      | zero =>
        -- at depth zero the brace would escape
        cases depth with
        | zero => exact absurd ⟨rfl, hmark⟩ h
        | succ n => simp [read, deepen, hmark]
    | _ => simp [read, deepen, hmark]

/-- No closing brace of the text closes more than the text, read from the count given, has
opened. -/
def StaysWithin (b : Balance) : Text → Prop
  | [] => True
  | c :: t => ¬ b.Escapes c ∧ (b.read c).StaysWithin t

instance decidableStaysWithin : (b : Balance) → (t : Text) → Decidable (b.StaysWithin t)
  | _, [] => inferInstanceAs (Decidable True)
  | b, c :: t =>
    have := decidableStaysWithin (b.read c) t
    inferInstanceAs (Decidable (_ ∧ _))

theorem readAll_nil (b : Balance) : b.readAll [] = b := rfl

theorem readAll_cons (b : Balance) (c : Char) (t : Text) :
    b.readAll (c :: t) = (b.read c).readAll t := rfl

theorem staysWithin_append {b : Balance} {s t : Text} :
    b.StaysWithin (s ++ t) ↔ b.StaysWithin s ∧ (b.readAll s).StaysWithin t := by
  induction s generalizing b with
  | nil => simp [StaysWithin, readAll_nil]
  | cons c s ih => rw [List.cons_append, StaysWithin, StaysWithin, readAll_cons, ih, and_assoc]

theorem staysWithin_concat {b : Balance} {t : Text} {c : Char} :
    b.StaysWithin (t ++ [c]) ↔ b.StaysWithin t ∧ ¬ (b.readAll t).Escapes c := by
  rw [staysWithin_append, StaysWithin, StaysWithin, and_true]

/-! ## White space -/

/-- White space opens and closes nothing. -/
theorem mark_of_isWhiteSpace {c : Char} (h : Unicode.isWhiteSpace c = true) :
    Mark.of c = .lineFeed ∨ Mark.of c = .plain := by
  by_cases hfeed : c = '\n'
  · subst hfeed
    exact .inl rfl
  · -- of the characters with marks, only the line feed is white space
    right
    apply Mark.of_eq_plain (p := fun d => Unicode.isWhiteSpace d && d != '\n')
    · simp [h, hfeed]
    · decide

theorem read_of_isWhiteSpace {c : Char} (h : Unicode.isWhiteSpace c = true) (b : Balance) :
    b.read c = b := by
  obtain ⟨quote, parens, depth⟩ := b
  rcases mark_of_isWhiteSpace h with hmark | hmark
  · cases quote <;> simp [read, hmark]
  · cases quote <;> simp [read, hmark]

theorem readAll_of_isWhiteSpace {t : Text} (h : ∀ c ∈ t, Unicode.isWhiteSpace c = true)
    (b : Balance) : b.readAll t = b := by
  induction t with
  | nil => rfl
  | cons c t ih =>
    rw [readAll_cons, read_of_isWhiteSpace (h c List.mem_cons_self)]
    exact ih fun d hd => h d (List.mem_cons_of_mem c hd)

theorem staysWithin_of_isWhiteSpace {t : Text} (h : ∀ c ∈ t, Unicode.isWhiteSpace c = true)
    (b : Balance) : b.StaysWithin t := by
  induction t with
  | nil => trivial
  | cons c t ih =>
    have hc := h c List.mem_cons_self
    refine ⟨?_, ?_⟩
    · rintro ⟨-, hmark⟩
      rcases mark_of_isWhiteSpace hc with hmark' | hmark'
      · rw [hmark'] at hmark
        cases hmark
      · rw [hmark'] at hmark
        cases hmark
    · rw [read_of_isWhiteSpace hc]
      exact ih fun d hd => h d (List.mem_cons_of_mem c hd)

theorem readAll_trim (b : Balance) (t : Text) : b.readAll (Text.trim t) = b.readAll t := by
  obtain ⟨front, back, ht, hfront, hback⟩ := Text.exists_trimBy Unicode.isWhiteSpace t
  conv_rhs => rw [ht]
  rw [readAll_append, readAll_append, readAll_of_isWhiteSpace hfront,
    readAll_of_isWhiteSpace hback]
  rfl

theorem staysWithin_trim {b : Balance} {t : Text} :
    b.StaysWithin (Text.trim t) ↔ b.StaysWithin t := by
  obtain ⟨front, back, ht, hfront, hback⟩ := Text.exists_trimBy Unicode.isWhiteSpace t
  conv_rhs => rw [ht]
  rw [staysWithin_append, staysWithin_append, readAll_of_isWhiteSpace hfront]
  constructor
  · intro h
    exact ⟨⟨staysWithin_of_isWhiteSpace hfront b, h⟩, staysWithin_of_isWhiteSpace hback _⟩
  · intro h
    exact h.1.2

/-- However bodies are handed out, the same is open behind them. -/
theorem after_bodyText (options : SplitOptions) (body : Text) :
    after (options.bodyText body) = after body := by
  rw [SplitOptions.bodyText]
  split
  · rfl
  · exact readAll_trim free body

theorem staysWithin_bodyText (options : SplitOptions) {b : Balance} {body : Text} :
    b.StaysWithin (options.bodyText body) ↔ b.StaysWithin body := by
  rw [SplitOptions.bodyText]
  split
  · rfl
  · exact staysWithin_trim

end Balance

/-! ## Bodies -/

namespace Cutter

/-- The last piece reports what is open. -/
theorem cause_lastPiece (k : Cutter) : k.lastPiece.cause = k.balance.openConstruct? := by
  rw [lastPiece]
  split <;> rfl

/-- In the body of a rule, the brace that closes the rule is one that closes more than the body
has opened. -/
theorem closesRule_iff {k : Cutter} {b : Balance} (h : k.balance = b.deepen) (c : Char) :
    k.closesRule c ↔ b.Escapes c := by
  rw [closesRule, h, Balance.Escapes, show ({ depth := 1 } : Balance) = Balance.free.deepen from rfl,
    Balance.deepen_inj]

/-- A cutter in the body of a rule: what it has read of the body stays within the braces, and what
is open is what the body has opened, inside the braces of the rule. -/
theorem body_of_inside {x selector body : Text}
    (h : (({} : Cutter).after x).place = .inside selector body) :
    Balance.free.StaysWithin body ∧
      (({} : Cutter).after x).balance = (Balance.after body).deepen := by
  -- induction from the end: the last character opened the rule or is the last one of its body
  induction x using List.reverseRecOn generalizing body with
  | nil => cases h
  | append_singleton x c ih =>
    have hbalance : (({} : Cutter).after (x ++ [c])).balance =
        (({} : Cutter).after x).balance.read c := by
      rw [after_concat]
      rfl
    rw [hbalance]
    rw [after_concat] at h
    have hstep := (({} : Cutter).after x).step_read c
    rw [h] at hstep
    generalize ((({} : Cutter).after x).read c).1 = o at hstep
    cases hstep with
    | openRule p hp hfree hc hhash =>
      rw [hfree, hc]
      exact ⟨trivial, rfl⟩
    | growBody selector body hp hopen =>
      obtain ⟨hbody, hinside⟩ := ih hp
      have hescapes : ¬ (Balance.after body).Escapes c :=
        fun hc => hopen ((closesRule_iff hinside c).2 hc)
      refine ⟨Balance.staysWithin_concat.2 ⟨hbody, hescapes⟩, ?_⟩
      rw [hinside, Balance.read_deepen hescapes, Balance.after_concat]

/-- A body that stays within its braces is read to its end, wherever in the rule it stands. -/
theorem after_of_staysWithin {k : Cutter} {b : Balance} {selector front body : Text}
    (hplace : k.place = .inside selector front) (hbalance : k.balance = b.deepen)
    (h : b.StaysWithin body) :
    k.pieces body = [] ∧
      k.after body = ⟨(b.readAll body).deepen, .inside selector (front ++ body)⟩ := by
  induction body generalizing k b front with
  | nil =>
    obtain ⟨balance, place⟩ := k
    simp only at hplace hbalance
    subst hplace hbalance
    simp [Balance.readAll_nil]
  | cons c body ih =>
    have hread : k.read c = (none, ⟨(b.read c).deepen, .inside selector (front ++ [c])⟩) := by
      have hopen : ¬ k.closesRule c := fun hc => h.1 ((closesRule_iff hbalance c).1 hc)
      rw [read, readAt, hplace, hbalance, Balance.read_deepen h.1]
      simp only [if_neg hopen]
    obtain ⟨hpieces, hafter⟩ := ih (k := (k.read c).2) (by rw [hread]) (by rw [hread]) h.2
    rw [pieces_cons, after_cons, hpieces, hafter, hread]
    simp [Balance.readAll_cons]

end Cutter

/-- The body of a rule stays within its braces. If the rule is closed, nothing is open behind its
body; otherwise the rule reports what the body leaves open, and itself if that is nothing. -/
theorem body_of_mem_pieces {source : Text} {p : Piece} (hp : p ∈ pieces source) {body : Text}
    (hbody : p.body = some body) :
    Balance.free.StaysWithin body ∧
      (p.closed = true ∧ p.cause = none ∧ Balance.after body = .free ∨
        p.closed = false ∧
          p.cause = some ((Balance.after body).openConstruct?.getD .block)) := by
  obtain ⟨qs, rs, h⟩ := List.append_of_mem hp
  rcases Cutter.exists_step_of_pieces h with ⟨-, -, rfl⟩ | ⟨x, c, y, place, -, -, hstep⟩
  · -- the last piece: the source ends inside the rule
    cases hplace : (({} : Cutter).after source).place with
    | outside pending =>
      rw [Cutter.lastPiece, hplace] at hbody
      cases hbody
    | inside selector body' =>
      rw [Cutter.lastPiece, hplace] at hbody ⊢
      obtain rfl := Option.some.inj hbody
      obtain ⟨hwithin, hbalance⟩ := Cutter.body_of_inside hplace
      refine ⟨hwithin, .inr ⟨rfl, ?_⟩⟩
      simp only
      rw [hbalance, Balance.openConstruct?_deepen]
  · cases hstep with
    | declare pending hplace hfree hc => cases hbody
    | openRule pending hplace hfree hc hhash => cases hbody
    | closeRule selector body' hplace hbalance hc =>
      obtain rfl := Option.some.inj hbody
      obtain ⟨hwithin, hinside⟩ := Cutter.body_of_inside hplace
      refine ⟨hwithin, .inl ⟨rfl, rfl, ?_⟩⟩
      rw [hinside, show ({ depth := 1 } : Balance) = Balance.free.deepen from rfl,
        Balance.deepen_inj] at hbalance
      exact hbalance

end SheetLex
