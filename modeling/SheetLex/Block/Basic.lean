import SheetLex.Text.Basic

/-!
# Blocks

A stylesheet is a sequence of blocks: rules, which have a selector and a body between braces,
and declarations, which have a text only. The pass over a source ends with an end block. A
construct left open at the end of the source is reported on the block that holds the text
pending there.
-/

set_option autoImplicit false

namespace SheetLex

/-- A construct that the end of the source left open. -/
inductive OpenConstruct where
  | parenthesis
  | string
  | block
deriving DecidableEq, Repr

/-- The wording of the report on an open construct. -/
def OpenConstruct.message : OpenConstruct → String
  | .parenthesis => "Missing closing parenthesis somewhere in block"
  | .string => "Missing closing string somewhere in block"
  | .block => "Block never closed"

/-- How a block came about. -/
inductive Completion where
  /-- A complete rule or declaration. -/
  | complete
  /-- The source is used up. -/
  | finished
  /-- The source ended inside an open construct; the block holds the text pending there. -/
  | recovered (cause : OpenConstruct)
deriving DecidableEq, Repr

/-- A rule, a declaration, or the end of the source. -/
structure Block where
  /-- How the block came about. -/
  status : Completion
  /-- The line number last given by a hint; `0` before the first. -/
  line : Nat
  /-- The condensed selector of a rule, or the condensed text of a declaration. -/
  selector : Text
  /-- The text between the braces of a rule. -/
  body : Option Text
deriving DecidableEq, Repr

namespace Block

/-- Whether the block has a body. -/
def isRule (b : Block) : Bool := b.body.isSome

/-- Whether the block marks the end of a pass. -/
def isEnd (b : Block) : Bool := b.status == .finished

/-- The open construct that the block reports, if it reports one. -/
def error? (b : Block) : Option OpenConstruct :=
  match b.status with
  | .recovered cause => some cause
  | _ => none

/-- The block that ends a pass. -/
def finish (line : Nat) : Block := ⟨.finished, line, [], none⟩

end Block

end SheetLex
