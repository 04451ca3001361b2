import SheetLex.Proofs.Block.Condensing
import SheetLex.Proofs.Block.Replacement

/-!
# Inserting text outside bodies

A text can be inserted at one point of a source, or at any number of points at once (`weave`); the
second goes back to the first from the last point to the first one (`apply_weave`), because what
stands before a point is then as it was.

Whether a point lies in the body of a rule can be told from what is open at it (`InBody`,
`inBody_iff`). Outside bodies, at the start of a line, a text that goes to the run as it stands can
be inserted if it does not show there (`view_pieces_insert`).
-/

set_option autoImplicit false

namespace SheetLex

/-! ## Weaving -/

/-- The rest of a source with text inserted at every point. What is inserted depends on the text
before the point and on the text behind it, both as they were. -/
def weaveFrom (inserted : Text → Text → Text) (before : Text) : Text → Text
  | [] => inserted before []
  | c :: t => inserted before (c :: t) ++ c :: weaveFrom inserted (before ++ [c]) t

/-- A source with text inserted at every point. -/
def weave (inserted : Text → Text → Text) (source : Text) : Text := weaveFrom inserted [] source

/-- A dot before every letter, and two of them at the end. -/
example : weave (fun _ t => if t = [] then ['.', '.'] else ['.']) ['a', 'b'] =
    ['.', 'a', '.', 'b', '.', '.'] := by decide

theorem apply_weaveFrom {γ : Type} {f : Text → γ} {inserted : Text → Text → Text} {before t : Text}
    (h : ∀ x y z, before ++ t = x ++ y → z.head? = y.head? →
      f (x ++ inserted x y ++ z) = f (x ++ z)) :
    f (before ++ weaveFrom inserted before t) = f (before ++ t) := by
  induction t generalizing before with
  | nil =>
    have hend := h before [] [] rfl rfl
    rw [List.append_nil] at hend
    exact hend
  | cons c t ih =>
    -- first what was inserted here goes; what is inserted further on stands behind the character
    have hhere := h before (c :: t) (c :: weaveFrom inserted (before ++ [c]) t) rfl rfl
    have hrest : f (before ++ [c] ++ weaveFrom inserted (before ++ [c]) t) =
        f (before ++ [c] ++ t) := by
      apply ih
      intro x y z hsource
      rw [List.append_assoc] at hsource
      exact h x y z hsource
    rw [weaveFrom, ← List.append_assoc, hhere]
    rw [List.append_assoc, List.append_assoc] at hrest
    exact hrest

/-- What can be inserted at each point without a difference to some function of the source can be
inserted at all of them. The text behind a point begins as it did. -/
theorem apply_weave {γ : Type} {f : Text → γ} {inserted : Text → Text → Text} {source : Text}
    (h : ∀ x y z, source = x ++ y → z.head? = y.head? → f (x ++ inserted x y ++ z) = f (x ++ z)) :
    f (weave inserted source) = f source := by
  change f ([] ++ weaveFrom inserted [] source) = f ([] ++ source)
  exact apply_weaveFrom h

/-! ## Bodies -/

/-- The point behind the text lies in the body of a rule: a brace has opened the rule, where nothing
was open and no hash stood, and what follows the brace has not closed it. -/
def InBody (x : Text) : Prop :=
  ∃ y z, x = y ++ '{' :: z ∧ Balance.after y = .free ∧ y.getLast? ≠ some '#' ∧
    Balance.free.StaysWithin z

/-- Whether the place is in the body of a rule. -/
def Place.isInside : Place → Bool
  | .outside _ => false
  | .inside _ _ => true

open Cutter

/-- In the body of a rule is where the cutter takes itself to be in one. -/
theorem inBody_iff {x : Text} :
    InBody x ↔ (({} : Cutter).after x).place.isInside = true := by
  constructor
  · rintro ⟨y, z, rfl, hfree, hhash, hwithin⟩
    -- the brace opens a rule, and what follows it stays in the body
    have hbalance := balance_after_start y
    rw [hfree] at hbalance
    obtain ⟨p, hp⟩ := (sound_after_start y).exists_outside hbalance
    have hhash' : p.text.getLast? ≠ some '#' := fun h => hhash ((getLast?_pending hp).1 h)
    have hread := read_leftBrace hp hbalance hhash'
    obtain ⟨-, hafter⟩ := after_of_staysWithin
      (k := ((({} : Cutter).after y).read '{').2) (b := .free) (by rw [hread]) (by rw [hread]; rfl)
      hwithin
    rw [Cutter.after_append, Cutter.after_cons, hafter]
    rfl
  · intro h
    cases hplace : (({} : Cutter).after x).place with
    | outside p =>
      rw [hplace] at h
      cases h
    | inside selector body =>
      obtain ⟨y, p, rfl, hp, hfree, hhash, -⟩ := exists_openRule hplace
      refine ⟨y, body, rfl, ?_, ?_, (body_of_inside hplace).1⟩
      · rw [← balance_after_start]
        exact hfree
      · exact fun h => hhash ((getLast?_pending hp).2 h)

instance : DecidablePred InBody := fun _ => decidable_of_iff _ inBody_iff.symm

/-- Outside bodies, the cutter has some pending text. -/
theorem exists_pending_of_not_inBody {x : Text} (h : ¬ InBody x) :
    ∃ p, (({} : Cutter).after x).place = .outside p := by
  cases hplace : (({} : Cutter).after x).place with
  | outside p => exact ⟨p, rfl⟩
  | inside selector body => exact absurd (inBody_iff.2 (by rw [hplace]; rfl)) h

/-- A text within which no piece ends leads neither into a body nor out of one. -/
theorem inBody_append_iff {x m : Text} (h : (Balance.after x).SparesAll m) :
    InBody (x ++ m) ↔ InBody x := by
  rw [← balance_after_start] at h
  obtain ⟨-, hafter⟩ := after_of_sparesAll h
  rw [inBody_iff, inBody_iff, Cutter.after_append, hafter]
  cases (({} : Cutter).after x).place with
  | outside p => exact Iff.rfl
  | inside selector body => exact Iff.rfl

/-! ## The start of a line -/

/-- The text is empty or ends with a line feed. -/
def StartsLine (t : Text) : Prop := t = [] ∨ t.getLast? = some '\n'

theorem startsLine_concat (t : Text) : StartsLine (t ++ ['\n']) := .inr List.getLast?_concat

namespace Pending

variable {α : Type} {look : Text → α} {rest m : Text} {p : Pending} {b : Balance}

/-- Go on with the run. -/
def addAll (p : Pending) (t : Text) : Pending := { p with run := p.run ++ t }

theorem addAll_nil (p : Pending) : p.addAll [] = p := by rw [addAll, List.append_nil]

theorem addAll_add (p : Pending) (c : Char) (t : Text) :
    (p.add c).addAll t = p.addAll (c :: t) := by
  rw [addAll, addAll, add, List.append_assoc, List.singleton_append]

/-- The pending text stands at the start of a line. A line feed that counts has begun a new run, so
what the run holds where nothing is open is blank. -/
structure AtLineStart (b : Balance) (p : Pending) : Prop where
  run : StartsLine p.run
  selector : StartsLine p.selector
  text : StartsLine p.text
  isBlank_run : b = .free → isBlank p.run = true

theorem atLineStart_empty (b : Balance) : AtLineStart b {} :=
  ⟨.inl rfl, .inl rfl, .inl rfl, fun _ => isBlank_nil⟩

theorem atLineStart_add (h : b = .free → isBlank p.run = true) : (p.add '\n').AtLineStart b where
  run := startsLine_concat p.run
  selector := by
    rw [selector_add]
    exact startsLine_concat _
  text := by
    rw [text_add]
    exact startsLine_concat _
  isBlank_run hfree := (isBlank_concat_of_isMargin rfl p.run).trans (h hfree)

theorem atLineStart_hold (p : Pending) (loose : Bool) : (p.hold '\n' loose).AtLineStart b where
  run := .inl rfl
  selector := by
    rw [selector_hold]
    exact startsLine_concat _
  text := by
    rw [text_hold]
    exact startsLine_concat _
  isBlank_run _ := isBlank_nil

theorem atLineStart_next_feed (p : Pending) (b : Balance) : (p.next b '\n').AtLineStart b := by
  rw [next_feed]
  split
  · rw [breakLine]
    split
    · rename_i hblank
      exact atLineStart_add fun _ => hblank
    · exact atLineStart_hold p.settle true
  · rename_i hopen
    exact atLineStart_add fun hfree => absurd hfree hopen

/-- A text that does not show at the start of a line makes no difference to pending text there. -/
theorem AtLineStart.replaces_addAll (h : p.AtLineStart b)
    (hm : ∀ s, StartsLine s → Text.Agree look rest (s ++ m) s) (hhash : '#' ∉ m) :
    (p.addAll m).Replaces look rest p where
  loose := rfl
  lead := rfl
  lead_held _ := rfl
  run := hm _ h.run
  selector := by
    have hagree := hm _ h.selector
    rw [Pending.selector, List.append_assoc] at hagree
    exact hagree
  text := by
    have hagree := hm _ h.text
    rw [Pending.text, List.append_assoc] at hagree
    exact hagree
  hash _ := by
    have hp : p.text.getLast? ≠ some '#' := by
      rcases h.text with hnil | hfeed
      · rw [hnil]
        decide
      · rw [hfeed]
        decide
    have htext : (p.addAll m).text = p.text ++ m := (List.append_assoc _ _ _).symm
    rw [htext, List.getLast?_append]
    cases hlast : m.getLast? with
    | none => rfl
    | some c =>
      have hc : c ≠ '#' := by
        rintro rfl
        exact hhash (List.mem_of_getLast? hlast)
      rw [Option.some_or]
      exact iff_of_false (fun heq => hc (Option.some.inj heq)) hp

end Pending

/-- At the start of a line outside bodies, the pending text stands there as well. -/
theorem exists_pending_at_lineStart {x : Text} (hbody : ¬ InBody x) (hline : StartsLine x) :
    ∃ p, (({} : Cutter).after x).place = .outside p ∧ p.AtLineStart (Balance.after x) := by
  rcases hline with rfl | hfeed
  · exact ⟨{}, rfl, Pending.atLineStart_empty _⟩
  · obtain ⟨x, rfl⟩ := List.getLast?_eq_some_iff.1 hfeed
    have hspares : (Balance.after x).Spares '\n' := ⟨fun _ => by decide, fun _ => by decide⟩
    have hall : (Balance.after x).SparesAll ['\n'] := ⟨hspares, trivial⟩
    have hout : ¬ InBody x := fun h => hbody ((inBody_append_iff hall).2 h)
    obtain ⟨p, hp⟩ := exists_pending_of_not_inBody hout
    have hafter : Balance.after (x ++ ['\n']) = Balance.after x := by
      rw [Balance.after_concat, Balance.read_of_isMargin rfl]
    rw [← balance_after_start] at hspares
    refine ⟨p.next (Balance.after x) '\n', ?_, ?_⟩
    · rw [after_concat, read_of_spares hspares, hp, balance_after_start]
      rfl
    · rw [hafter]
      exact p.atLineStart_next_feed _

/-- At the start of a line, the text goes to the run as it stands, and opens and closes nothing. -/
structure RunsOn (b : Balance) (m : Text) : Prop where
  spares : b.SparesAll m
  readAll : b.readAll m = b
  nextAll : ∀ p : Pending, p.AtLineStart b → p.nextAll b m = p.addAll m

/-- A text in which every character opens and closes nothing, ends no piece and goes to the run,
given something that holds of pending text at the start of a line and goes on holding. -/
theorem runsOn_of {P : Pending → Prop} {b : Balance} {m : Text}
    (hstart : ∀ p : Pending, p.AtLineStart b → P p)
    (hread : ∀ c ∈ m, b.read c = b) (hspares : ∀ c ∈ m, b.Spares c)
    (hnext : ∀ c ∈ m, ∀ p, P p → p.next b c = p.add c ∧ P (p.add c)) : RunsOn b m := by
  -- further on the run does not stand at the start of a line; what goes on holding is carried
  have hruns (p : Pending) (hp : P p) :
      b.SparesAll m ∧ b.readAll m = b ∧ p.nextAll b m = p.addAll m := by
    induction m generalizing p with
    | nil => exact ⟨trivial, rfl, p.addAll_nil.symm⟩
    | cons c m ih =>
      obtain ⟨hadd, hp⟩ := hnext c List.mem_cons_self p hp
      obtain ⟨hall, hafter, hrest⟩ := ih (fun d hd => hread d (List.mem_cons_of_mem c hd))
        (fun d hd => hspares d (List.mem_cons_of_mem c hd))
        (fun d hd => hnext d (List.mem_cons_of_mem c hd)) (p.add c) hp
      rw [Balance.SparesAll, Balance.readAll_cons, Pending.nextAll, hread c List.mem_cons_self,
        hadd, hrest, Pending.addAll_add]
      exact ⟨⟨hspares c List.mem_cons_self, hall⟩, hafter, rfl⟩
  have hempty := hruns {} (hstart {} (Pending.atLineStart_empty b))
  exact ⟨hempty.1, hempty.2.1, fun p hp => (hruns p (hstart p hp)).2.2⟩

/-- Such a text can be inserted at the start of a line outside bodies if it does not show there in
front of the rest of the source. -/
theorem view_pieces_insert {α β : Type} {look : Text → α} {seen : Text → β}
    (hlook : ShowsBlank look) {x m y : Text} (hbody : ¬ InBody x) (hline : StartsLine x)
    (hruns : RunsOn (Balance.after x) m)
    (hm : ∀ s, StartsLine s → Text.Agree look y (s ++ m) s) (hhash : '#' ∉ m) :
    (pieces (x ++ m ++ y)).map (Piece.view look seen) =
      (pieces (x ++ y)).map (Piece.view look seen) := by
  obtain ⟨p, hp, hstart⟩ := exists_pending_at_lineStart hbody hline
  have hnil : (pieces (x ++ m ++ y)).map (Piece.view look seen) =
      (pieces (x ++ [] ++ y)).map (Piece.view look seen) := by
    have hnone : (Balance.after x).SparesAll [] := trivial
    apply view_pieces_congr hlook hruns.spares hnone hruns.readAll
    rw [hp, Place.grow, Place.grow, hruns.nextAll p hstart]
    exact .outside (hstart.replaces_addAll hm hhash)
  rw [List.append_nil] at hnil
  exact hnil

end SheetLex
