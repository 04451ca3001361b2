import SheetLex.Token.Basic
import SheetLex.Token.Engine

/-!
# Patterns

A pattern has the name that its tokens carry and the source of an expression. It is matched at a
byte offset of a `Subject` and answers with the number of bytes that it takes there: the engine
looks for the first match from the offset on, and only one that begins at the offset counts.

The compiled form of a pattern is made when it is first asked for. It depends on the engine, the
source and the options only (`Pattern.matcher_get`), so when it is made, and by whom, makes no
difference to what matches.

Main statements: a pattern matches where the engine finds a match that begins there
(`Pattern.extent?_eq_some_iff`), and a match is a piece of the subject
(`Pattern.contains_of_extent?`), so it ends within the subject
(`Pattern.add_le_byteLength_of_extent?`) and has a text (`Pattern.exists_textIn?_of_extent?`).
-/

set_option autoImplicit false

namespace SheetLex

/-- A named pattern, for an engine and under the options given. -/
structure Pattern (engine : RegexEngine) (options : MatchOptions) where
  /-- The name that its tokens carry. -/
  name : String
  /-- The source of the expression. -/
  source : String
  /-- The compiled form, made when it is first asked for. -/
  matcher : Thunk (Except String engine.Matcher) :=
    Thunk.mk fun _ => engine.compile options source
  matcher_get : matcher.get = engine.compile options source := by rfl

namespace Pattern

variable {engine : RegexEngine} {options : MatchOptions}

/-- The pattern with the name and the source given. -/
def ofSource (name source : String) : Pattern engine options := { name, source }

/-- The number of bytes of the match that starts at the byte offset given, if there is one. -/
def extent? (p : Pattern engine options) (input : Subject) (pos : Nat) :
    Except TokenError (Option Nat) :=
  if input.byteLength < pos then .ok none
  else
    match p.matcher.get with
    | .error message => .error (.invalidPattern p.name message)
    | .ok matcher =>
      match engine.findFrom matcher input pos with
      | .error message => .error (.matchGivenUp p.name pos message)
      | .ok found =>
        -- the first match may begin further on, and then it does not count
        let here := found.filter fun range => range.start == pos
        .ok (here.map fun range => range.stop - pos)

/-- A pattern matches at an offset if the engine's first match from there on begins there. -/
theorem extent?_eq_some_iff {p : Pattern engine options} {input : Subject} {pos n : Nat} :
    p.extent? input pos = .ok (some n) ↔
      ∃ matcher, engine.compile options p.source = .ok matcher ∧
        engine.findFrom matcher input pos = .ok (some ⟨pos, pos + n⟩) := by
  constructor
  · intro h
    rw [extent?, p.matcher_get] at h
    split at h
    · cases h
    · split at h
      · cases h
      · rename_i matcher hcompile
        split at h
        · cases h
        · rename_i found hfind
          -- what passes the filter begins at the offset
          obtain ⟨range, hrange, rfl⟩ := Option.map_eq_some_iff.1 (Except.ok.inj h)
          obtain ⟨rfl, hstart⟩ := Option.filter_eq_some_iff.1 hrange
          obtain rfl : range.start = pos := beq_iff_eq.1 hstart
          have hle := (engine.contains_of_findFrom hfind).start_le_stop
          exact ⟨matcher, hcompile, by rw [Nat.add_sub_cancel' hle]; exact hfind⟩
  · rintro ⟨matcher, hcompile, hfind⟩
    have hpos := (engine.contains_of_findFrom hfind).isBoundary_start.le_byteLength
    rw [extent?, if_neg (Nat.not_lt_of_le hpos), p.matcher_get]
    simp only [hcompile, hfind, Option.filter, beq_self_eq_true, if_true, Option.map_some,
      Nat.add_sub_cancel_left]

/-- A match is a piece of the subject that begins at the byte offset given. -/
theorem contains_of_extent? {p : Pattern engine options} {input : Subject} {pos n : Nat}
    (h : p.extent? input pos = .ok (some n)) : input.Contains ⟨pos, pos + n⟩ := by
  obtain ⟨matcher, -, hfind⟩ := extent?_eq_some_iff.1 h
  exact engine.contains_of_findFrom hfind

theorem add_le_byteLength_of_extent? {p : Pattern engine options} {input : Subject} {pos n : Nat}
    (h : p.extent? input pos = .ok (some n)) : pos + n ≤ input.byteLength :=
  (contains_of_extent? h).isBoundary_stop.le_byteLength

/-- A match begins and ends on boundaries of characters, so it has a text. -/
theorem exists_textIn?_of_extent? {p : Pattern engine options} {input : Subject} {pos n : Nat}
    (h : p.extent? input pos = .ok (some n)) :
    ∃ text, (⟨pos, pos + n⟩ : ByteRange).textIn? input.text = some text :=
  (contains_of_extent? h).exists_textIn?

end Pattern

end SheetLex
