import SheetLex.Proofs.Block.Stretch
import SheetLex.Proofs.Block.Concatenation

/-!
# The selector of a rule

Behind the end of a block, or from the start of a source on, text is pending up to the brace that
opens a rule (`PendingFrom`). The rule takes its selector from the place in the pending text where
it starts (`selectorStart`), and what precedes that place is a declaration of its own, which yields a
block in front of the rule if it is not blank (`splitBlocks_selector`).
-/

set_option autoImplicit false

namespace SheetLex

/-- The second text is pending behind the first one: a block ends in front of it, or the source
begins there, and no block ends in it. -/
structure PendingFrom (options : SplitOptions) (u z : Text) : Prop where
  start : u = [] ∨ EndsBlock options u
  last : ∀ a b, z = a ++ b → a ≠ [] → ¬ EndsBlock options (u ++ a)

variable {options : SplitOptions} {u z u' z' x : Text}

/-! ## Where the pending text begins -/

theorem after_of_start (h : u = [] ∨ EndsBlock options u) : ({} : Cutter).after u = {} := by
  rcases h with rfl | h
  · rfl
  · exact after_of_endsBlock h

/-- What a cutter holds outside rules begins behind the end of a block, or at the start. -/
theorem exists_start (options : SplitOptions) {p : Pending}
    (h : (({} : Cutter).after x).place = .outside p) :
    ∃ u, x = u ++ p.text ∧ (u = [] ∨ EndsBlock options u) := by
  -- induction from the end: the last character ended a block or joined the pending text
  induction x using List.reverseRecOn generalizing p with
  | nil =>
    obtain rfl : {} = p := Place.outside.inj h
    exact ⟨[], rfl, .inl rfl⟩
  | append_singleton x c ih =>
    have hx := represents_stateBehind options (rfl : x ++ [c] = x ++ [c])
    rw [Cutter.after_concat] at h
    have hstep := (({} : Cutter).after x).step_read c
    rw [h] at hstep
    generalize ((({} : Cutter).after x).read c).1 = o at hstep
    cases hstep with
    | declare q hq hfree hc =>
      subst hc
      refine ⟨x ++ [';'], (List.append_nil _).symm, .inr (.semicolon x rfl ?_)⟩
      exact hx.balance.trans hfree
    | closeRule selector body hplace hbalance hc =>
      subst hc
      refine ⟨x ++ ['}'], (List.append_nil _).symm, .inr (.brace x rfl ?_ ?_)⟩
      · exact hx.balance.trans hbalance
      · obtain ⟨before, -, -, hstands⟩ := hx.place
        rw [hplace] at hstands
        exact hstands.2.2
    | grow q q' hq htext hsound hfree =>
      obtain ⟨u, rfl, hu⟩ := ih hq
      refine ⟨u, ?_, hu⟩
      rw [htext, List.append_assoc]

/-- It goes up to where the cutter stands. -/
theorem exists_pendingFrom (options : SplitOptions) {p : Pending}
    (h : (({} : Cutter).after x).place = .outside p) :
    ∃ u, x = u ++ p.text ∧ PendingFrom options u p.text := by
  obtain ⟨u, hx, hu⟩ := exists_start options h
  refine ⟨u, hx, hu, ?_⟩
  intro a b hab hne hends
  -- the cutter would be back at its start, but it holds what it has read behind the first text
  obtain ⟨huncut, -, -⟩ := Cutter.pending_of_outside h
  rw [hab] at huncut
  have hafter := after_of_endsBlock hends
  rw [Cutter.after_append, after_of_start hu, (Cutter.after_of_uncut huncut.of_append).2] at hafter
  have hplace := Place.outside.inj (congrArg Cutter.place hafter)
  apply hne
  rw [← Pending.text_ofText a, hplace]
  rfl

/-- Behind the place where the pending text begins, there is no other such place. -/
theorem PendingFrom.eq_nil {a : Text} (h : PendingFrom options u (a ++ z))
    (h' : PendingFrom options (u ++ a) z) : a = [] := by
  by_contra hne
  rcases h'.start with hnil | hends
  · exact hne (List.append_eq_nil_iff.1 hnil).2
  · exact h.last a z rfl hne hends

theorem PendingFrom.unique (h : PendingFrom options u z) (h' : PendingFrom options u' z')
    (heq : u ++ z = u' ++ z') : u' = u := by
  rcases List.append_eq_append_iff.1 heq with ⟨a, rfl, rfl⟩ | ⟨a, rfl, rfl⟩
  · rw [h.eq_nil h', List.append_nil]
  · rw [h'.eq_nil h, List.append_nil]

/-- The blocks of the text in front are those of its pieces. -/
theorem PendingFrom.splitBlocks_eq (h : PendingFrom options u z) :
    splitBlocks u options = report options 0 (({} : Cutter).pieces u) := by
  rcases h.start with rfl | hends
  · rw [splitBlocks_eq_report]
    rfl
  · exact report_pieces_of_endsBlock hends

/-! ## The rule behind pending text -/

/-- A brace behind pending text cuts it in two: a declaration and the selector of a rule. -/
theorem exists_pieces_of_brace (hu : u = [] ∨ EndsBlock options u) (hz : Uncut z)
    (hfree : Balance.after z = .free) (hhash : z.getLast? ≠ some '#') (y : Text) :
    ∃ rule body rs,
      pieces (u ++ z ++ '{' :: y) =
        ({} : Cutter).pieces u ++ { head := (Pending.ofText z).settle.lead } :: rule :: rs ∧
      rule.head = (Pending.ofText z).settle.selector ∧ rule.body = some body ∧ body <+: y := by
  obtain ⟨hnone, hafter⟩ := Cutter.after_of_uncut hz
  have hread : (({} : Cutter).after z).read '{' =
      (some { head := (Pending.ofText z).settle.lead },
        ⟨{ depth := 1 }, .inside (Pending.ofText z).settle.selector []⟩) := by
    rw [hafter]
    apply Cutter.read_leftBrace rfl hfree
    rw [Pending.text_ofText]
    exact hhash
  obtain ⟨rule, rs, hrule, hhead, hbody⟩ := Cutter.exists_rule_of_inside
    (k := ⟨{ depth := 1 }, .inside (Pending.ofText z).settle.selector []⟩) rfl y
  obtain ⟨body, hbody⟩ := Option.isSome_iff_exists.1 hbody
  refine ⟨rule, body, rs, ?_, hhead, hbody, ?_⟩
  · rw [pieces, List.append_assoc, Cutter.allPieces_append, after_of_start hu,
      Cutter.allPieces_append, hnone, Cutter.allPieces_cons, hread, hrule]
    rfl
  · -- the body is what the pieces from the rule on begin with, behind the selector and the brace
    have htext := Cutter.flatMap_text_allPieces
      ⟨{ depth := 1 }, .inside (Pending.ofText z).settle.selector []⟩ y
    rw [hrule, List.flatMap_cons, Piece.text, hhead, hbody, Place.text] at htext
    simp only [List.append_assoc, List.cons_append, List.nil_append, List.append_cancel_left_eq,
      List.cons.injEq, true_and] at htext
    exact ⟨_, htext⟩

/-- What a declaration and a rule behind it yield. -/
theorem report_declaration_rule (options : SplitOptions) (line : Nat) (lead : Text) {rule : Piece}
    (hrule : rule.body.isSome = true) (rs : List Piece) :
    ∃ line' later, report options line ({ head := lead } :: rule :: rs) =
      (if isBlank lead then [] else [⟨.complete, line', (condense lead).text, none⟩]) ++
        rule.block options line' :: later := by
  have hsilent : rule.isSilent = false := by
    rw [Piece.isSilent, Option.isNone_eq_false_iff.2 hrule, Bool.false_and]
  rw [report_cons, report_cons, Piece.yield_of_not_isSilent hsilent]
  cases hblank : isBlank lead with
  | true =>
    have hlead : ({ head := lead } : Piece).isSilent = true := hblank
    rw [Piece.yield_of_isSilent hlead]
    exact ⟨line, _, rfl⟩
  | false =>
    have hlead : ({ head := lead } : Piece).isSilent = false := hblank
    rw [Piece.yield_of_not_isSilent hlead]
    exact ⟨_, _, rfl⟩

/-- A brace at which nothing is open, and before which no hash stands, opens a rule. Its selector is
taken from the text that is pending there: from behind the second-to-last line that is not blank on,
in the last stretch with such a line, or from the beginning. What is pending in front of the selector
yields a block of its own right before that of the rule, unless it is blank. -/
theorem splitBlocks_selector (options : SplitOptions) {source x y : Text}
    (hsource : source = x ++ '{' :: y) (hfree : Balance.after x = .free)
    (hhash : x.getLast? ≠ some '#') :
    ∃ u z, x = u ++ z ∧ PendingFrom options u z ∧
      (∀ u' z', x = u' ++ z' → PendingFrom options u' z' → u' = u) ∧
      let init := u.length + selectorStart z
      let declaration := Text.slice source u.length init
      init ≤ x.length ∧
      ∃ line rule later, splitBlocks source options = splitBlocks u options ++
          (if isBlank declaration then []
            else [⟨.complete, line, (condense declaration).text, none⟩]) ++ rule :: later ∧
        rule.selector = (condense (Text.slice source init x.length)).text ∧
        ∃ body, body <+: y ∧ rule.body = some (options.bodyText body) := by
  have hbalance := (Cutter.balance_after_start x).trans hfree
  obtain ⟨p, hp⟩ := (Cutter.sound_after_start x).exists_outside hbalance
  obtain ⟨u, hx, hpending⟩ := exists_pendingFrom options hp
  obtain ⟨huncut, -, hafter⟩ := Cutter.pending_of_outside hp
  have hlast : p.text.getLast? ≠ some '#' := fun h => hhash ((Cutter.getLast?_pending hp).1 h)
  obtain ⟨rule, body, rs, hpieces, hhead, hbody, hprefix⟩ :=
    exists_pieces_of_brace hpending.start huncut (hafter.trans hbalance) hlast y
  obtain ⟨line, later, hreport⟩ := report_declaration_rule options
    (lineBehind 0 (({} : Cutter).pieces u)) (Pending.ofText p.text).settle.lead
    (by rw [hbody]; rfl) rs
  -- the two parts of the pending text, in offsets of the source
  have hsplit : p.text =
      (Pending.ofText p.text).settle.lead ++ (Pending.ofText p.text).settle.selector := by
    rw [Pending.lead_append_selector, Pending.text_settle, Pending.text_ofText]
  have hlength := Pending.length_lead_ofText p.text
  generalize (Pending.ofText p.text).settle.lead = lead at *
  generalize (Pending.ofText p.text).settle.selector = selector at *
  refine ⟨u, p.text, hx, hpending, fun u' z' hx' h' => hpending.unique h' (hx ▸ hx'), ?_⟩
  intro init declaration
  have hinit : init = u.length + lead.length := by rw [hlength]
  have hdeclaration : declaration = lead := by
    apply Text.slice_eq (c := selector ++ '{' :: y) ?_ rfl hinit
    rw [hsource, hx, hsplit]
    simp
  have hselector : Text.slice source init x.length = selector := by
    apply Text.slice_eq (a := u ++ lead) (c := '{' :: y)
    · rw [hsource, hx, hsplit]
      simp
    · rw [hinit, List.length_append]
    · rw [hx, hsplit]
      simp [Nat.add_assoc]
  refine ⟨?_, line, rule.block options line, later, ?_, ?_, body, hprefix, ?_⟩
  · rw [hinit, hx, hsplit]
    simp
  · rw [hdeclaration, splitBlocks_eq_report, hsource, hx, hpieces, report_append, hreport,
      hpending.splitBlocks_eq, List.append_assoc]
  · rw [hselector, ← hhead]
    rfl
  · rw [Piece.block, hbody]
    rfl

/-- Behind a declaration, another one lacks its semicolon; the selector of the rule takes two lines,
a comma behind the first, and a parenthesis in the second. -/
theorem splitBlocks_selector_call :
    let u : Text := ['a', ';']
    let z : Text := ['b', '\n', 'c', ',', '\n', 'd', '(', ')']
    let source : Text := u ++ z ++ ['{', 'e', '}']
    Balance.after (u ++ z) = .free ∧ (u ++ z).getLast? ≠ some '#' ∧ selectorStart z = 2 ∧
      ∃ line rule later, splitBlocks source {} =
          splitBlocks u {} ++ [⟨.complete, line, ['b'], none⟩] ++ rule :: later ∧
        rule.selector = ['c', ',', '\n', 'd', '(', ')'] := by
  intro u z source
  have hfree : Balance.after (u ++ z) = .free := by decide
  have hhash : (u ++ z).getLast? ≠ some '#' := by decide
  have hstart : selectorStart z = 2 := by decide
  obtain ⟨u', z', hx, hpending, hunique, -, line, rule, later, hblocks, hselector, -⟩ :=
    splitBlocks_selector {} (rfl : source = u ++ z ++ '{' :: ['e', '}']) hfree hhash
  -- the semicolon is the last character that has ended a block
  obtain ⟨v, hv, hv'⟩ := exists_pendingFrom {} (x := u ++ z)
    (p := ⟨['b', '\n'], ['c', ',', '\n', 'd', '('], [')'], false⟩) (by decide)
  obtain rfl : u' = u := by
    rw [← hunique v _ hv hv']
    exact (List.append_cancel_right hv).symm
  obtain rfl : z = z' := List.append_cancel_left hx
  rw [hstart] at hblocks hselector
  exact ⟨hfree, hhash, hstart, line, rule, later, hblocks, hselector.trans (by decide)⟩

end SheetLex
