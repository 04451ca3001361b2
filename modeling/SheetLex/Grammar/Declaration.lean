import SheetLex.Block.Tree
import SheetLex.Token.Lookahead
import SheetLex.Token.Table

/-!
# Declarations

A declaration is a name, a colon and a value, which is a sequence of tokens of the expression
table. `parseDeclarations` reads every block of a source that has no body as a declaration.
-/

set_option autoImplicit false

namespace SheetLex

/-- A declaration: its name, and the tokens of its value with their texts. -/
structure Declaration where
  name : Text
  value : List (String × Text)
deriving DecidableEq, Repr

namespace Declaration

variable {engine : RegexEngine} {options : MatchOptions}

/-- The kinds of tokens that a name can be. -/
def nameKinds : List String := ["KWVAR", "VAR", "KWID", "ID"]

/-- The kind of token that ends a value. -/
def endKind : String := "END"

/-- The kinds of tokens that a value consists of. -/
def valueKinds : List String :=
  ["LPAR", "RPAR", "MUL", "DIV", "ADD", "SUB", "SIGN", "STR", "QSTR", "UNITS", "NUM", "COLOR",
    "VAR", "FNCT", "ID", ",", endKind]

/-- The result of reading a part of a declaration: the part or an error, and the reader and the
lexicon behind it. -/
abbrev Reading (engine : RegexEngine) (options : MatchOptions) (α : Type) :=
  Except TokenError α × Lookahead × Lexicon engine options

/-- Read the name. -/
def readName (r : Lexicon engine options) (c : Lookahead) : Reading engine options Text :=
  match c.nextKind r nameKinds with
  | (.error e, c, r) => (.error e, c, r)
  | (.ok kind, c, r) => c.take r (kind.getD "KWID")

/-- Read the tokens of the value, up to the end or to where none of the kinds fits. Every token
takes a byte at least, so the number of bytes is enough for `fuel`. -/
def readValue :
    Nat → Lexicon engine options → Lookahead → Reading engine options (List (String × Text))
  | 0, r, c => (.ok [], c, r)
  | fuel + 1, r, c =>
    match c.nextKind r valueKinds with
    | (.error e, c, r) => (.error e, c, r)
    | (.ok none, c, r) => (.ok [], c, r)
    | (.ok (some kind), c, r) =>
      if kind = endKind then (.ok [], c, r)
      else
        match c.take r kind with
        | (.error e, c, r) => (.error e, c, r)
        | (.ok text, c, r) =>
          match readValue fuel r c with
          | (.error e, c, r) => (.error e, c, r)
          | (.ok rest, c, r) => (.ok ((kind, text) :: rest), c, r)

/-- Read a declaration. -/
def read (r : Lexicon engine options) (c : Lookahead) : Reading engine options Declaration :=
  match readName r c with
  | (.error e, c, r) => (.error e, c, r)
  | (.ok name, c, r) =>
    match c.take r ":" with
    | (.error e, c, r) => (.error e, c, r)
    | (.ok _, c, r) =>
      match readValue (c.tokenizer.input.byteLength + 1) r c with
      | (.error e, c, r) => (.error e, c, r)
      | (.ok value, c, r) => (.ok ⟨name, value⟩, c, r)

/-- Read the texts given as declarations, one after the other with the same lexicon. Each
result comes with the reader behind it. -/
def readAll (r : Lexicon engine options) :
    List Text → List (Except TokenError Declaration × Lookahead)
  | [] => []
  | text :: rest =>
    let (result, c, r) := read r (.ofTokenizer (.ofInput r ["WS"] text))
    (result, c) :: readAll r rest

end Declaration

/-- Read every block without a body as a declaration, bodies of rules included. -/
def parseDeclarations (engine : RegexEngine) (source : Text) :
    List (Except TokenError Declaration × Lookahead) :=
  let blocks := (blockTree {} source).map PlacedBlock.block
  let texts := (blocks.filter fun b => !b.isRule).map Block.selector
  Declaration.readAll (.ofList Table.expression : Lexicon engine {}) texts

end SheetLex
