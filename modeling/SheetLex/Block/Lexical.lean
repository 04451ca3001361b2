/-!
# Which characters have a structural effect

What a character does to the division into blocks depends on the character's class and on the
lexical mode at that point: the open string, if any, whether a parenthesis is open, and how deep
the point lies inside braces. `LexicalMode.action?` is the table of the effects.

Inside a string only the quote that closes it counts. Inside parentheses, outside strings, only
quotes and parentheses count. Elsewhere braces count, and outside all blocks semicolons, commas
and line feeds as well.
-/

set_option autoImplicit false

namespace SheetLex

/-- The quotes that delimit strings. -/
inductive Quote where
  | single
  | double
deriving DecidableEq, Repr

/-- The classes of characters that can have a structural effect. -/
inductive Mark where
  | quote (q : Quote)
  | leftParen
  | rightParen
  | leftBrace
  | rightBrace
  | semicolon
  | comma
  | lineFeed
  /-- No character: the source is used up. -/
  | sourceEnd
  | plain
deriving DecidableEq, Repr

/-- The class of a character. -/
def Mark.of (c : Char) : Mark :=
  if c = '"' then .quote .double
  else if c = '\'' then .quote .single
  else if c = '(' then .leftParen
  else if c = ')' then .rightParen
  else if c = '{' then .leftBrace
  else if c = '}' then .rightBrace
  else if c = ';' then .semicolon
  else if c = ',' then .comma
  else if c = '\n' then .lineFeed
  else .plain

/-- How deep a point lies inside braces. -/
inductive Nesting where
  /-- Outside all blocks. -/
  | outside
  /-- Inside one pair of braces. -/
  | outer
  /-- Inside two pairs of braces at least. -/
  | inner
deriving DecidableEq, Repr

/-- The nesting at a depth. -/
def Nesting.ofDepth : Nat → Nesting
  | 0 => .outside
  | 1 => .outer
  | _ => .inner

/-- The lexical mode at a point of the source. -/
structure LexicalMode where
  /-- The quote that opened the string around the point. -/
  quote : Option Quote
  /-- Whether a parenthesis is open. -/
  inParens : Bool
  /-- How deep the point lies inside braces. -/
  nesting : Nesting
deriving DecidableEq, Repr

/-- The structural effects. -/
inductive Action where
  | beginString (q : Quote)
  | endString
  | beginParens
  | endParens
  /-- An opening brace outside all blocks: a rule begins, or an interpolation. -/
  | openOuter
  /-- An opening brace inside a block. -/
  | openInner
  /-- The closing brace of an outermost block. -/
  | closeOuter
  /-- The closing brace of a block inside a block. -/
  | closeInner
  /-- A semicolon that ends a declaration. -/
  | endDeclaration
  /-- A comma: the selector goes on behind it. -/
  | extendSelector
  /-- A line feed: a selector may begin behind it. -/
  | breakLine
  /-- The end of the source: pending text becomes a declaration. -/
  | emitPending
deriving DecidableEq, Repr

/-- The effect of a character outside strings and parentheses. -/
def Nesting.action? : Nesting → Mark → Option Action
  | .outside, .leftBrace => some .openOuter
  | _, .leftBrace => some .openInner
  | .outer, .rightBrace => some .closeOuter
  | .inner, .rightBrace => some .closeInner
  | .outside, .semicolon => some .endDeclaration
  | .outside, .comma => some .extendSelector
  | .outside, .lineFeed => some .breakLine
  | _, .sourceEnd => some .emitPending
  | _, _ => none

/-- The effect of a character of the class given, or `none` if it has no effect. -/
def LexicalMode.action? (m : LexicalMode) (k : Mark) : Option Action :=
  match m.quote, k with
  | some opened, .quote q => if opened = q then some .endString else none
  | some _, _ => none
  | none, .quote q => some (.beginString q)
  | none, .leftParen => some .beginParens
  | none, k =>
    if m.inParens then
      if k = .rightParen then some .endParens else none
    else m.nesting.action? k

end SheetLex
