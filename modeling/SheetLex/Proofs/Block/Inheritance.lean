import SheetLex.Proofs.Block.Body
import SheetLex.Proofs.Block.Tree

/-!
# Open constructs are inherited by bodies

A pass reports what the source leaves open, on its last block and on no other (`reports_after`).
What a rule reports is what its body leaves open, or the rule itself if that is nothing
(`error?_of_body`). A complete rule therefore has no report below it, and below a rule with a
report the pass over its body goes on with the same one, or falls silent if the rule itself was all
that was open. In the tree of a source the reports form one chain from the last block of the source
downwards (`exists_errorChain`).
-/

set_option autoImplicit false

namespace SheetLex

/-! ## What a pass reports -/

/-- The pass over the source reports the open construct given, on its last block and on no
other, or it reports none. -/
inductive Reports (options : SplitOptions) (source : Text) : Option OpenConstruct → Prop where
  | nothing : (∀ b ∈ splitBlocks source options, b.error? = none) → Reports options source none
  | last {front : List Block} {b : Block} {cause : OpenConstruct} :
      splitBlocks source options = front ++ [b] → (∀ b' ∈ front, b'.error? = none) →
      b.error? = some cause → Reports options source (some cause)

/-- A block with a report is the last one of its pass. -/
theorem Reports.succ_eq_length {source : Text} {options : SplitOptions}
    {open? : Option OpenConstruct} (h : Reports options source open?) {i : Nat} {b : Block}
    (hb : (splitBlocks source options)[i]? = some b) (herror : b.error?.isSome = true) :
    i + 1 = (splitBlocks source options).length := by
  cases h with
  | nothing hnone =>
    rw [hnone b (List.mem_of_getElem? hb)] at herror
    cases herror
  | @last front last cause hblocks hfront hlast =>
    rw [hblocks] at hb ⊢
    rw [List.length_append, List.length_singleton]
    rcases Nat.lt_or_ge i front.length with hi | hi
    · -- the blocks before the last one report nothing
      rw [List.getElem?_append_left hi] at hb
      rw [hfront b (List.mem_of_getElem? hb)] at herror
      cases herror
    · have hlt := (List.getElem?_eq_some_iff.1 hb).1
      rw [List.length_append, List.length_singleton] at hlt
      omega

theorem Reports.exists_iff {source : Text} {options : SplitOptions}
    {open? : Option OpenConstruct} (h : Reports options source open?) (cause : OpenConstruct) :
    (∃ b ∈ splitBlocks source options, b.error? = some cause) ↔ open? = some cause := by
  cases h with
  | nothing hnone =>
    refine ⟨?_, fun h => by cases h⟩
    rintro ⟨b, hb, herror⟩
    rw [hnone b hb] at herror
    cases herror
  | @last front last cause' hblocks hfront hlast =>
    rw [hblocks]
    constructor
    · rintro ⟨b, hb, herror⟩
      rcases List.mem_append.1 hb with hb | hb
      · rw [hfront b hb] at herror
        cases herror
      · obtain rfl := List.mem_singleton.1 hb
        rw [← hlast, herror]
    · rintro h
      exact ⟨last, List.mem_append_right front (List.mem_singleton.2 rfl), hlast.trans h⟩

theorem Reports.exists_isSome_iff {source : Text} {options : SplitOptions}
    {open? : Option OpenConstruct} (h : Reports options source open?) :
    (∃ b ∈ splitBlocks source options, b.error?.isSome = true) ↔ open?.isSome = true := by
  simp only [Option.isSome_iff_exists, ← h.exists_iff]
  constructor
  · rintro ⟨b, hb, cause, herror⟩
    exact ⟨cause, b, hb, herror⟩
  · rintro ⟨cause, b, hb, herror⟩
    exact ⟨b, hb, cause, herror⟩

/-- If something is open at the end of a source, there is a block to report it on. -/
theorem Cutter.Sound.isSilent_lastPiece {k : Cutter} (h : k.Sound) (hopen : k.balance ≠ .free) :
    k.lastPiece.isSilent = false := by
  rw [lastPiece]
  split
  · rename_i p hp
    exact (h.pending hp).2 hopen
  · rfl

/-- A pass reports what its source leaves open. -/
theorem reports_after (options : SplitOptions) (source : Text) :
    Reports options source (Balance.after source).openConstruct? := by
  have hcause := (({} : Cutter).after source).cause_lastPiece
  rw [Cutter.balance_after_start] at hcause
  -- the blocks of all pieces but the last, and the block of the last piece
  have hblocks := splitBlocks_eq_report source options
  rw [pieces, Cutter.allPieces, report_append, report_cons] at hblocks
  cases hopen : (Balance.after source).openConstruct? with
  | none =>
    apply Reports.nothing
    intro b hb
    rw [hblocks, ← report_cons] at hb
    rcases List.mem_append.1 hb with hb | hb
    · exact error?_of_mem_report_pieces hb
    · obtain ⟨p, hp, -, line, rfl⟩ := exists_piece_of_mem_report hb
      obtain rfl := List.mem_singleton.1 hp
      rw [(describes_block _ options line).error, hcause, hopen]
  | some cause =>
    have hne : (({} : Cutter).after source).balance ≠ .free := by
      rw [Cutter.balance_after_start]
      intro hfree
      rw [(Balance.openConstruct?_eq_none_iff _).2 hfree] at hopen
      cases hopen
    rw [Piece.yield_of_not_isSilent ((Cutter.sound_after_start source).isSilent_lastPiece hne)]
      at hblocks
    refine .last hblocks (fun b hb => error?_of_mem_report_pieces hb) ?_
    rw [(describes_block _ options _).error, hcause, hopen]

/-- What a rule reports is what its body leaves open, or the rule itself. -/
theorem error?_of_body {options : SplitOptions} {source : Text} {b : Block}
    (hb : b ∈ splitBlocks source options) {body : Text} (hbody : b.body = some body) :
    b.error? = none ∧ Balance.after body = .free ∨
      b.error? = some ((Balance.after body).openConstruct?.getD .block) := by
  rw [splitBlocks_eq_report] at hb
  obtain ⟨p, hp, -, line, rfl⟩ := exists_piece_of_mem_report hb
  obtain ⟨inner, hinner, rfl⟩ := Option.map_eq_some_iff.1 hbody
  rw [(describes_block p options line).error, Balance.after_bodyText]
  rcases (body_of_mem_pieces hp hinner).2 with ⟨-, hcause, hfree⟩ | ⟨-, hcause⟩
  · exact .inl ⟨hcause, hfree⟩
  · exact .inr hcause

/-- A complete rule has a body that leaves nothing open. -/
theorem after_body_of_complete {options : SplitOptions} {source : Text} {b : Block}
    (hb : b ∈ splitBlocks source options) {body : Text} (hbody : b.body = some body)
    (h : b.error? = none) : Balance.after body = .free := by
  rcases error?_of_body hb hbody with ⟨-, hfree⟩ | herror
  · exact hfree
  · rw [h] at herror
    cases herror

/-- The body of a rule with a report goes on with that report, or it is the rule that is left open
and its body reports nothing. -/
theorem reports_body {options : SplitOptions} {source : Text} {b : Block}
    (hb : b ∈ splitBlocks source options) {body : Text} (hbody : b.body = some body)
    {cause : OpenConstruct} (h : b.error? = some cause) :
    Reports options body (some cause) ∨ cause = .block ∧ Reports options body none := by
  have hreports := reports_after options body
  rcases error?_of_body hb hbody with ⟨hnone, -⟩ | herror
  · rw [h] at hnone
    cases hnone
  · rw [h] at herror
    cases hopen : (Balance.after body).openConstruct? with
    | none =>
      rw [hopen] at herror hreports
      exact .inr ⟨Option.some.inj herror, hreports⟩
    | some cause' =>
      rw [hopen] at herror hreports
      obtain rfl : cause = cause' := Option.some.inj herror
      exact .inl hreports

/-- Where nothing is open at the end, no block reports anything. -/
theorem error?_of_free {options : SplitOptions} {source : Text}
    (h : Balance.after source = .free) : ∀ b ∈ splitBlocks source options, b.error? = none := by
  have hreports := reports_after options source
  rw [(Balance.openConstruct?_eq_none_iff _).2 h] at hreports
  cases hreports with
  | nothing hnone => exact hnone

/-! ## Reports in the tree -/

/-- A source that leaves nothing open has no report in its tree. -/
theorem error?_of_mem_blockTree {options : SplitOptions} {source : Text}
    (h : Balance.after source = .free) :
    ∀ p ∈ blockTree options source, p.block.error? = none := by
  induction source using body_induction options with
  | h source ih =>
    intro p hp
    rw [blockTree_eq] at hp
    obtain ⟨b, hb, hp⟩ := List.mem_flatMap.1 hp
    have hnone := error?_of_free h b hb
    rcases List.mem_cons.1 hp with rfl | hp
    · exact hnone
    · obtain ⟨q, hq, rfl⟩ := List.mem_map.1 hp
      obtain ⟨body, hbody, hq⟩ := mem_bodyTree.1 hq
      exact ih b hb body hbody (after_body_of_complete hb hbody hnone) q hq

/-- A chain of blocks with reports: the first is the last block of the source, each further one
the last block of the body of the one before, and no other block of these passes has a report. -/
inductive ErrorChain (options : SplitOptions) : Text → List Block → Prop where
  | clean {source : Text} : (∀ b ∈ splitBlocks source options, b.error? = none) →
      ErrorChain options source []
  | leaf {source : Text} {front : List Block} {b : Block} :
      splitBlocks source options = front ++ [b] → (∀ b' ∈ front, b'.error? = none) →
      b.error?.isSome = true → b.body = none → ErrorChain options source [b]
  | link {source body : Text} {front chain : List Block} {b : Block} :
      splitBlocks source options = front ++ [b] → (∀ b' ∈ front, b'.error? = none) →
      b.error?.isSome = true → b.body = some body → ErrorChain options body chain →
      ErrorChain options source (b :: chain)

/-- Blocks on consecutive levels, from the uppermost one downwards. -/
def descent (chain : List Block) : List PlacedBlock := chain.zipIdx.map fun (b, depth) => ⟨depth, b⟩

theorem descent_cons (b : Block) (chain : List Block) :
    descent (b :: chain) = ⟨0, b⟩ :: (descent chain).map PlacedBlock.lower := by
  rw [descent, descent, List.zipIdx_cons, List.map_cons, List.zipIdx_succ, List.map_map,
    List.map_map]
  rfl

/-- The placed blocks that have a report. -/
def reportedIn (tree : List PlacedBlock) : List PlacedBlock :=
  tree.filter fun p => p.block.error?.isSome

theorem reportedIn_map_lower (tree : List PlacedBlock) :
    reportedIn (tree.map PlacedBlock.lower) = (reportedIn tree).map PlacedBlock.lower := by
  rw [reportedIn, List.filter_map]
  rfl

theorem reportedIn_eq_nil {tree : List PlacedBlock} (h : ∀ p ∈ tree, p.block.error? = none) :
    reportedIn tree = [] := by
  rw [reportedIn, List.filter_eq_nil_iff]
  intro p hp
  rw [h p hp]
  exact Bool.false_ne_true

/-- Below a block without a report there is none. -/
theorem reportedIn_bodyTree {options : SplitOptions} {source : Text} {b : Block}
    (hb : b ∈ splitBlocks source options) (h : b.error? = none) :
    reportedIn (bodyTree options b) = [] := by
  apply reportedIn_eq_nil
  intro p hp
  obtain ⟨body, hbody, hp⟩ := mem_bodyTree.1 hp
  exact error?_of_mem_blockTree (after_body_of_complete hb hbody h) p hp

/-- The reports in a tree: block by block the report of the block and those below it. -/
theorem reportedIn_blockTree (options : SplitOptions) (source : Text) :
    reportedIn (blockTree options source) = (splitBlocks source options).flatMap fun b =>
      (if b.error?.isSome then [⟨0, b⟩] else []) ++
        (reportedIn (bodyTree options b)).map PlacedBlock.lower := by
  rw [blockTree_eq, reportedIn, List.filter_flatMap]
  apply List.flatMap_congr
  intro b hb
  rw [List.filter_cons, ← reportedIn, reportedIn_map_lower]
  split <;> rfl

/-- The reports in the tree of a source form a chain. -/
theorem exists_errorChain (options : SplitOptions) (source : Text) :
    ∃ chain, ErrorChain options source chain ∧
      reportedIn (blockTree options source) = descent chain := by
  induction source using body_induction options with
  | h source ih =>
    -- blocks without a report contribute nothing, and neither does what lies below them
    have hquiet {b : Block} (hb : b ∈ splitBlocks source options) (h : b.error? = none) :
        (if b.error?.isSome then [⟨0, b⟩] else []) ++
          (reportedIn (bodyTree options b)).map PlacedBlock.lower = [] := by
      rw [reportedIn_bodyTree hb h, h]
      rfl
    have hreports := reports_after options source
    generalize (Balance.after source).openConstruct? = open? at hreports
    rw [reportedIn_blockTree]
    cases hreports with
    | nothing hnone =>
      refine ⟨[], .clean hnone, ?_⟩
      rw [List.flatMap_eq_nil_iff.2 fun b hb => hquiet hb (hnone b hb)]
      rfl
    | @last front b cause hblocks hfront hb =>
      have hmem : b ∈ splitBlocks source options := by simp [hblocks]
      have hsome : b.error?.isSome = true := by rw [hb]; rfl
      -- what is reported is the last block and what its own tree reports
      have hlast : ((splitBlocks source options).flatMap fun b =>
          (if b.error?.isSome then [⟨0, b⟩] else []) ++
            (reportedIn (bodyTree options b)).map PlacedBlock.lower) =
          ⟨0, b⟩ :: (reportedIn (bodyTree options b)).map PlacedBlock.lower := by
        rw [hblocks, List.flatMap_append, List.flatMap_singleton, if_pos hsome,
          List.flatMap_eq_nil_iff.2 fun b' hb' =>
            hquiet (hblocks ▸ List.mem_append_left [b] hb') (hfront b' hb')]
        rfl
      rw [hlast]
      cases hbody : b.body with
      | none =>
        refine ⟨[b], .leaf hblocks hfront hsome hbody, ?_⟩
        rw [bodyTree_of_none options hbody]
        rfl
      | some body =>
        obtain ⟨chain, hchain, hreported⟩ := ih b hmem body hbody
        refine ⟨b :: chain, .link hblocks hfront hsome hbody hchain, ?_⟩
        rw [bodyTree_of_some options hbody, hreported, descent_cons]

/-- A body goes on with the report of its rule: below a complete rule there is none, a rule that
reports a parenthesis or a string has a body whose pass ends with the same report, and a rule that
is itself left open has a body that reports nothing or ends with the same report. The blocks with
reports in the tree of a source form a chain, each the last one of its pass. -/
theorem errors_inherited (options : SplitOptions) (source : Text) :
    (∀ b ∈ splitBlocks source options, ∀ body, b.body = some body →
      (b.error? = none → ∀ p ∈ blockTree options body, p.block.error? = none) ∧
      (∀ cause, b.error? = some cause → cause ≠ .block → Reports options body (some cause)) ∧
      (b.error? = some .block → Reports options body none ∨ Reports options body (some .block))) ∧
    ∃ chain, ErrorChain options source chain ∧
      reportedIn (blockTree options source) = descent chain := by
  refine ⟨?_, exists_errorChain options source⟩
  intro b hb body hbody
  refine ⟨?_, ?_, ?_⟩
  · intro hnone
    exact error?_of_mem_blockTree (after_body_of_complete hb hbody hnone)
  · intro cause hcause hne
    rcases reports_body hb hbody hcause with hreports | ⟨hblock, -⟩
    · exact hreports
    · exact absurd hblock hne
  · intro hcause
    rcases reports_body hb hbody hcause with hreports | ⟨-, hreports⟩
    · exact .inr hreports
    · exact .inl hreports

/-- A parenthesis left open inside two rules is reported by the outer one and on every level of
its body. -/
theorem errors_inherited_parenthesis :
    let source : Text := ['a', '{', 'b', '{', '(']
    (splitBlocks source {}).map Block.error? = [some .parenthesis] ∧
      Reports {} ['b', '{', '('] (some .parenthesis) := by
  intro source
  have hblocks : splitBlocks source {} =
      [⟨.recovered .parenthesis, 0, ['a'], some ['b', '{', '(']⟩] := by decide +kernel
  have hbody := (errors_inherited {} source).1 _ (hblocks ▸ List.mem_singleton.2 rfl) _ rfl
  refine ⟨by rw [hblocks]; rfl, ?_⟩
  exact hbody.2.1 .parenthesis rfl (by decide)

end SheetLex
