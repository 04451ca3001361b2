import SheetLex.Regex.Basic
import SheetLex.Regex.CharacterClass
import SheetLex.Text.Basic

/-!
# Reading patterns

`Regex.parse` reads the source of a pattern. The grammar has three levels: alternatives, the
sequence of pieces in one alternative, and a piece, which is an atom with at most one quantifier.

Readers carry the flags in force, the number of groups opened so far, and the names given to
groups. Their recursion is bounded by a number computed from the length of the source: every
level of nesting and every round of a loop takes a character at least.
-/

set_option autoImplicit false

namespace SheetLex

/-- What can be wrong with a pattern. -/
inductive RegexError where
  | unclosedGroup
  | unopenedGroup
  | nestedTooDeeply
  | nothingToRepeat
  | invalidRepetition
  | invalidClass
  | invalidEscape
  | trailingBackslash
  | invalidCode
  | unknownProperty
  | unknownFlag
  | invalidGroupName
  | unknownGroup
  | mixedReferences
  | emptyConditional
  | lookBehindOfVariableSize
  | tooLarge
deriving DecidableEq, Repr

/-- The flags that change how a pattern is read. -/
structure RegexFlags where
  ignoreCase : Bool := false
  /-- Whether `^` and `$` also match at line feeds. -/
  multiLine : Bool := false
  /-- Whether `.` also matches a line feed. -/
  dotMatchesAll : Bool := false
  /-- Whether repetitions are lazy unless marked, and greedy if marked. -/
  swapGreed : Bool := false
  /-- Whether blanks and comments are left out. -/
  extended : Bool := false
deriving DecidableEq, Repr

/-- Turn the flag of a letter on or off. -/
def RegexFlags.update? (flags : RegexFlags) (on : Bool) : Char → Option RegexFlags
  | 'i' => some { flags with ignoreCase := on }
  | 'm' => some { flags with multiLine := on }
  | 's' => some { flags with dotMatchesAll := on }
  | 'U' => some { flags with swapGreed := on }
  | 'x' => some { flags with extended := on }
  | 'u' => if on then some flags else none
  | _ => none

/-- What readers carry along. -/
structure ParserState where
  /-- The source not read yet. -/
  rest : Text
  flags : RegexFlags := {}
  /-- The number of groups opened so far. -/
  groups : Nat := 0
  /-- The names of groups, the latest first. -/
  names : List (Text × Nat) := []
  /-- The groups that references and conditionals name. -/
  referenced : List Nat := []
  /-- Whether a group was referred to by its number. -/
  usesNumbers : Bool := false
deriving Repr

/-- A reader of a part of the source. -/
abbrev Parser := StateT ParserState (Except RegexError)

namespace Parser

/-- The greatest nesting of groups. -/
def greatestDepth : Nat := 64

/-- The greatest count that a quantifier can give. -/
def greatestCount : Nat := 0xFFFFFFFFFFFFFFFF

/-! ## Blanks and comments -/

/-- What is being left out. -/
inductive Skipping where
  | nothing
  | lineComment
  | groupComment
  /-- Behind a backslash in a comment in parentheses. -/
  | escaped
deriving DecidableEq, Repr

/-- Leave out comments in parentheses, and, with the flag for it, blanks and line comments. -/
def dropIgnored (extended : Bool) : Skipping → Text → Except RegexError Text
  | .nothing, [] => .ok []
  | .nothing, '(' :: '?' :: '#' :: rest => dropIgnored extended .groupComment rest
  | .nothing, c :: rest =>
    if extended && (c == ' ' || c == '\t' || c == '\r' || c == '\n') then
      dropIgnored extended .nothing rest
    else if extended && c == '#' then dropIgnored extended .lineComment rest
    else .ok (c :: rest)
  | .lineComment, [] => .ok []
  | .lineComment, c :: rest =>
    dropIgnored extended (if c == '\n' then .nothing else .lineComment) rest
  | .groupComment, [] | .escaped, [] => .error .unclosedGroup
  | .groupComment, c :: rest =>
    dropIgnored extended
      (if c == ')' then .nothing else if c == '\\' then .escaped else .groupComment) rest
  | .escaped, _ :: rest => dropIgnored extended .groupComment rest

/-- Leave out what counts for nothing here. -/
def skipIgnored : Parser Unit := do
  let s ← get
  let rest ← dropIgnored s.flags.extended .nothing s.rest
  set { s with rest }

/-! ## Characters -/

/-- The next character, which stays unread. -/
def peek : Parser (Option Char) := do return (← get).rest.head?

/-- Read `n` characters. -/
def skip (n : Nat) : Parser Unit := modify fun s => { s with rest := s.rest.drop n }

/-- Read the text given, if it comes next. -/
def accept (expected : Text) : Parser Bool := do
  let s ← get
  if expected.isPrefixOf s.rest then
    set { s with rest := s.rest.drop expected.length }
    return true
  else return false

/-- Read the parenthesis that closes a group. -/
def closeGroup : Parser Unit := do
  skipIgnored
  unless ← accept [')'] do throw .unclosedGroup

/-! ## Numbers and names -/

/-- Read a decimal number, unless there is none or it is too large. -/
def readDecimal? (t : Text) : Option (Nat × Text) :=
  let digits := t.takeWhile Char.isDigit
  if digits.isEmpty then none
  else
    let value := digits.foldl (fun value d => value * 10 + (d.toNat - '0'.toNat)) 0
    if value ≤ greatestCount then some (value, t.drop digits.length) else none

/-- Whether the character may stand in the name of a group. -/
def isNameChar (c : Char) : Bool := c == '_' || Unicode.alphanumeric.contains c

/-- Read a name up to the character that closes it. A sign may come first in references. -/
def readName? (signAllowed : Bool) (close : Char) (t : Text) : Option (Text × Text) :=
  let sign := if signAllowed && t.head? == some '-' then ['-'] else []
  let name := sign ++ (t.drop sign.length).takeWhile isNameChar
  match name, t.drop name.length with
  | [], _ => none
  | _, c :: rest => if c == close then some (name, rest) else none
  | _, [] => none

/-- The value of a hexadecimal digit. -/
def hexValue? (c : Char) : Option Nat :=
  if c.isDigit then some (c.toNat - '0'.toNat)
  else if 'a' ≤ c && c ≤ 'f' then some (c.toNat - 'a'.toNat + 10)
  else if 'A' ≤ c && c ≤ 'F' then some (c.toNat - 'A'.toNat + 10)
  else none

/-- The character that hexadecimal digits stand for. -/
def hexChar? (digits : Text) : Option Char :=
  let n := digits.foldl (fun n d => n * 16 + (hexValue? d).getD 0) 0
  if n.isValidChar then some (Char.ofNat n) else none

/-- Read a character given by its code point: as many hexadecimal digits as asked for, or up to
eight between braces. -/
def readHex (count : Nat) : Parser Char := do
  let t := (← get).rest
  let isHex := fun c => (hexValue? c).isSome
  let plain := t.take count
  let (digits, rest) ←
    if plain.length == count && plain.all isHex then pure (plain, t.drop count)
    else match t with
      | '{' :: t' =>
        let digits := t'.takeWhile isHex
        if digits.isEmpty || 8 < digits.length || (t'.drop digits.length).head? != some '}' then
          throw .invalidCode
        else pure (digits, t'.drop (digits.length + 1))
      | _ => throw .invalidCode
  modify fun s => { s with rest }
  match hexChar? digits with
  | some c => return c
  | none => throw .invalidCode

/-! ## Quantifiers -/

/-- Read the bounds of a quantifier in braces behind the opening brace. -/
def readBounds? (extended : Bool) (t : Text) : Option ((Nat × Option Nat) × Text) := do
  let blank := fun t => (dropIgnored extended .nothing t).toOption
  let t ← blank t
  let (least, t) ← if t.head? == some ',' then pure (0, t) else readDecimal? t
  let t ← blank t
  match t with
  | '}' :: rest => return ((least, some least), rest)
  | ',' :: rest =>
    let t ← blank rest
    let (most, t) := match readDecimal? t with
      | some (n, t') => (if n == greatestCount then none else some n, t')
      | none => (none, t)
    match ← blank t with
    | '}' :: rest => return ((least, most), rest)
    | _ => none
  | _ => none

/-- Read the bounds of a quantifier, if one comes next. A brace that does not begin a quantifier
is left to stand for itself. -/
def quantifier? : Parser (Option (Nat × Option Nat)) := do
  let s ← get
  match s.rest with
  | '?' :: rest => set { s with rest }; return some (0, some 1)
  | '*' :: rest => set { s with rest }; return some (0, none)
  | '+' :: rest => set { s with rest }; return some (1, none)
  | '{' :: rest =>
    match readBounds? s.flags.extended rest with
    | some (bounds, rest) => set { s with rest }; return some bounds
    | none => return none
  | _ => return none

/-! ## References -/

/-- Note that a group is referred to. -/
def noteReference (group : Nat) : Parser Unit :=
  modify fun s => { s with referenced := group :: s.referenced }

/-- Read a reference to a group by its number. A number that a source of this length cannot
reach is refused; `size` is the length of the source in bytes. -/
def numberedGroup (size : Nat) : Parser Nat := do
  match readDecimal? (← get).rest with
  | some (group, rest) =>
    if group < size / 2 then
      modify fun s => { s with rest, usesNumbers := true }
      noteReference group
      return group
    else throw .unknownGroup
  | none => throw .unknownGroup

/-- The group that a name or a number in a reference stands for. A number with a sign counts
back from the group opened last. -/
def resolveGroup? (s : ParserState) (name : Text) : Option Nat :=
  match s.names.lookup name with
  | some group => some group
  | none =>
    match name with
    | '-' :: digits => do
      let (n, rest) ← readDecimal? digits
      if rest.isEmpty && n ≤ s.groups + 1 then some (s.groups + 1 - n) else none
    | digits => do
      let (n, rest) ← readDecimal? digits
      if rest.isEmpty then some n else none

/-- Read a reference to a group by its name, up to the character that closes it. -/
def namedGroup (signAllowed : Bool) (close : Char) : Parser Nat := do
  let s ← get
  match readName? signAllowed close s.rest with
  | none => throw .invalidGroupName
  | some (name, rest) =>
    match resolveGroup? s name with
    | some group =>
      set { s with rest }
      noteReference group
      return group
    | none => throw .unknownGroup

/-- Require that a group referred to has been opened by now. -/
def requireOpened (group : Nat) : Parser Nat := do
  if group ≤ (← get).groups then return group else throw .unknownGroup

/-- Read a reference by name to a group that has been opened by now. -/
def openedGroup (signAllowed : Bool) (close : Char) : Parser Nat := do
  requireOpened (← namedGroup signAllowed close)

/-! ## Escapes -/

/-- What an escape stands for. -/
inductive Escape where
  /-- A character; `foldable` tells whether it may match in either case. -/
  | char (c : Char) (foldable : Bool)
  | set (s : CodeSet)
  /-- A hexadecimal digit, or anything else. -/
  | hexDigit (negated : Bool)
  /-- Something that cannot stand in a class. -/
  | other (r : Regex)

/-- The characters that are hexadecimal digits. -/
def hexDigits : CodeSet := ⟨[(0x30, 0x39), (0x41, 0x46), (0x61, 0x66)]⟩

/-- Read the property behind `\p` or `\P`. -/
def property (negated : Bool) : Parser Escape := do
  let s ← get
  let (name, rest) ← match s.rest with
    | [] => throw .invalidEscape
    | '{' :: t =>
      let name := t.takeWhile (· != '}')
      match t.drop name.length with
      | _ :: rest => pure (name, rest)
      | [] => throw .unknownProperty
    | c :: rest => pure ([c], rest)
  set { s with rest }
  match Unicode.propertySet? name with
  | some codes =>
    return .set ((Unicode.closeUnderCaseIf s.flags.ignoreCase codes).complementIf negated)
  | none => throw .unknownProperty

/-- The control characters and the space that have an escape. -/
def controlEscape? : Char → Option Char
  | 'a' => some '\x07'
  | 'b' => some '\x08'
  | 'f' => some '\x0C'
  | 'n' => some '\n'
  | 'r' => some '\r'
  | 't' => some '\t'
  | 'v' => some '\x0B'
  | 'e' => some '\x1B'
  | _ => none

/-- Letters with a meaning outside classes that stand for themselves inside. -/
def standsForItselfInClass (c : Char) : Bool :=
  c == 'k' || c == 'A' || c == 'z' || c == 'B' || c == 'K' || c == 'G'

/-- The assertion that a letter behind a backslash stands for. -/
def assertion? : Char → Option Assertion
  | 'A' => some .textStart
  | 'z' => some .textEnd
  | 'b' => some .wordBoundary
  | 'B' => some .notWordBoundary
  | '<' => some .wordStart
  | '>' => some .wordEnd
  | _ => none

/-- Read an escape behind its backslash. -/
def escape (size : Nat) (inClass : Bool) : Parser Escape := do
  match (← get).rest with
  | [] => throw .trailingBackslash
  | c :: rest =>
    if c.isDigit then
      return .other (.reference (← requireOpened (← numberedGroup size)))
    skip 1
    if !inClass then
      if let some a := assertion? c then
        if (c == 'b' || c == 'B') && rest.head? == some '{' then throw .invalidEscape
        return .other (.assertion a)
      match c with
      | 'K' => return .other .matchStart
      | 'G' => return .other .searchStart
      | 'k' =>
        if ← accept ['\''] then return .other (.reference (← openedGroup true '\''))
        if ← accept ['<'] then return .other (.reference (← openedGroup true '>'))
        throw .invalidGroupName
      | _ => pure ()
    match c with
    | 'd' => return .set Unicode.decimalDigit
    | 'D' => return .set Unicode.decimalDigit.complement
    | 's' => return .set Unicode.whiteSpace
    | 'S' => return .set Unicode.whiteSpace.complement
    | 'w' => return .set Unicode.wordCharacter
    | 'W' => return .set Unicode.wordCharacter.complement
    | 'h' => return .hexDigit false
    | 'H' => return .hexDigit true
    | 'p' => property false
    | 'P' => property true
    | 'x' => return .char (← readHex 2) true
    | 'u' => return .char (← readHex 4) true
    | 'U' => return .char (← readHex 8) true
    | _ =>
      match controlEscape? c with
      | some control => return .char control false
      | none =>
        if c.isAlpha && !(inClass && standsForItselfInClass c) then throw .invalidEscape
        return .char c false

/-- Read an escape outside classes. -/
def escapedAtom (size : Nat) : Parser Regex := do
  match ← escape size false with
  | .char c foldable => return .literal c (foldable && (← get).flags.ignoreCase)
  | .set s => return .set s
  | .hexDigit negated => return .set (hexDigits.complementIf negated)
  | .other r => return r

/-! ## Classes -/

/-- The class text for hexadecimal digits. -/
def hexDigitTokens (negated : Bool) : List ClassToken :=
  ((if negated then "[^0-9A-Fa-f]" else "[0-9A-Fa-f]").toList).map .plain

/-- Read the tokens of a class up to the bracket that closes it, which is included. `depth` is
the number of open brackets. -/
def classTokens (size : Nat) : Nat → Nat → Parser (List ClassToken)
  | 0, _ => throw .invalidClass
  | fuel + 1, depth => do
    match (← get).rest with
    | [] => throw .invalidClass
    | '\\' :: _ =>
      skip 1
      let tokens ← match ← escape size true with
        | .char c _ => pure [.literal c]
        | .set s => pure [.set s]
        | .hexDigit negated => pure (hexDigitTokens negated)
        | .other _ => throw .invalidClass
      return tokens ++ (← classTokens size fuel depth)
    | '[' :: _ =>
      skip 1
      return .plain '[' :: (← classTokens size fuel (depth + 1))
    | ']' :: _ =>
      skip 1
      if depth ≤ 1 then return [.plain ']']
      return .plain ']' :: (← classTokens size fuel (depth - 1))
    | c :: _ =>
      skip 1
      return .plain c :: (← classTokens size fuel depth)

/-- Read a class behind its opening bracket. A closing bracket that comes first, also behind a
negation, stands for itself. -/
def bracketed (size : Nat) : Parser Regex := do
  let negation := if ← accept ['^'] then [.plain '^'] else []
  let leading := if ← accept [']'] then [.plain ']'] else []
  let tokens ← classTokens size ((← get).rest.length + 1) 1
  match CharacterClass.read (← get).flags.ignoreCase (negation ++ leading ++ tokens) with
  | some s => return .set s
  | none => throw .invalidClass

/-! ## Flags -/

/-- Read flag letters up to the parenthesis or colon behind them, and tell whether it is a
colon. `count` is the number of letters and hyphens read so far, and `negated` tells whether a
hyphen is among them. A hyphen alone is refused, and so is a closing parenthesis before any
flag. -/
def flagLetters : Nat → Nat → Bool → Parser Bool
  | 0, _, _ => throw .unclosedGroup
  | fuel + 1, count, negated => do
    skipIgnored
    match ← peek with
    | none => throw .unclosedGroup
    | some c =>
      skip 1
      if c == ')' then
        if count == 0 || (negated && count == 1) then throw .unknownFlag else return false
      else if c == ':' then
        if negated && count == 1 then throw .unknownFlag else return true
      else if c == '-' then
        if negated then throw .unknownFlag else flagLetters fuel (count + 1) true
      else
        let s ← get
        match s.flags.update? (!negated) c with
        | some flags =>
          set { s with flags }
          flagLetters fuel (count + 1) negated
        | none => throw .unknownFlag

/-- Run a reader, and put the flags back afterwards. -/
def withFlagsKept {α : Type} (reader : Parser α) : Parser α := do
  let flags := (← get).flags
  let a ← reader
  modify fun s => { s with flags }
  return a

/-! ## The grammar -/

/-- The parts of a sequence as one expression. -/
def joinSequence : List Regex → Regex
  | [] => .empty
  | [r] => r
  | rs => .sequence rs

/-- The two branches of a conditional: the first alternative, and the others. -/
def branches : Regex → Regex × Regex
  | .choice (yes :: [no]) => (yes, no)
  | .choice (yes :: others) => (yes, .choice others)
  | r => (r, .empty)

/-- A quantifier applied to an atom, with the marks behind it: a question mark for lazy, then a
plus sign for atomic. -/
def quantified (atom : Regex) (bounds : Nat × Option Nat) : Parser Regex := do
  unless atom.isRepeatable do throw .nothingToRepeat
  skipIgnored
  let marked ← accept ['?']
  let greedy := marked == (← get).flags.swapGreed
  let r := Regex.repetition atom bounds.1 bounds.2 greedy
  if ← accept ['+'] then return .atomic r else return r

mutual

/-- Read alternatives. -/
def alternatives (size : Nat) : Nat → Nat → Parser Regex
  | 0, _ => throw .nestedTooDeeply
  | fuel + 1, depth => do
    let first ← pieces size fuel depth []
    skipIgnored
    if (← peek) == some '|' then
      return .choice (first :: (← moreAlternatives size fuel depth))
    let s ← get
    if s.usesNumbers && !s.names.isEmpty then throw .mixedReferences
    return first

/-- Read the alternatives behind the first. -/
def moreAlternatives (size : Nat) : Nat → Nat → Parser (List Regex)
  | 0, _ => throw .nestedTooDeeply
  | fuel + 1, depth => do
    if ← accept ['|'] then
      let next ← pieces size fuel depth []
      skipIgnored
      return next :: (← moreAlternatives size fuel depth)
    else return []

/-- Read the pieces of a sequence. `done` holds those read so far, the latest first. -/
def pieces (size : Nat) : Nat → Nat → List Regex → Parser Regex
  | 0, _, _ => throw .nestedTooDeeply
  | fuel + 1, depth, done => do
    let before := (← get).rest.length
    if before == 0 then return joinSequence done.reverse
    let next ← piece size fuel depth
    if (← get).rest.length == before then return joinSequence done.reverse
    pieces size fuel depth (if next.isEmpty then done else next :: done)

/-- Read an atom and the quantifier behind it, if there is one. -/
def piece (size : Nat) : Nat → Nat → Parser Regex
  | 0, _ => throw .nestedTooDeeply
  | fuel + 1, depth => do
    let r ← atom size fuel depth
    skipIgnored
    match ← quantifier? with
    | some bounds => quantified r bounds
    | none => return r

/-- Read an atom; none stands before a quantifier, a bar or a closing parenthesis. -/
def atom (size : Nat) : Nat → Nat → Parser Regex
  | 0, _ => throw .nestedTooDeeply
  | fuel + 1, depth => do
    skipIgnored
    let s ← get
    match s.rest with
    | [] => return .empty
    | c :: _ =>
      match c with
      | '+' | '*' | '?' | '|' | ')' => return .empty
      | '.' => skip 1; return .any s.flags.dotMatchesAll
      | '^' =>
        skip 1
        return .assertion (if s.flags.multiLine then .lineStart else .textStart)
      | '$' =>
        skip 1
        return .assertion (if s.flags.multiLine then .lineEnd else .textEnd)
      | '\\' => skip 1; escapedAtom size
      | '[' => skip 1; bracketed size
      | '(' => skip 1; group size fuel (depth + 1)
      | _ => skip 1; return .literal c s.flags.ignoreCase

/-- Read a group behind its opening parenthesis. -/
def group (size : Nat) : Nat → Nat → Parser Regex
  | 0, _ => throw .nestedTooDeeply
  | fuel + 1, depth => do
    if greatestDepth ≤ depth then throw .nestedTooDeeply
    skipIgnored
    if ← accept ['?', '='] then return .look .ahead false (← groupBody size fuel depth)
    if ← accept ['?', '!'] then return .look .ahead true (← groupBody size fuel depth)
    if ← accept ['?', '<', '='] then return .look .behind false (← groupBody size fuel depth)
    if ← accept ['?', '<', '!'] then return .look .behind true (← groupBody size fuel depth)
    if ← accept ['?', '<'] then return ← namedCapture size fuel depth
    if ← accept ['?', 'P', '<'] then return ← namedCapture size fuel depth
    if ← accept ['?', 'P', '='] then return .reference (← openedGroup false ')')
    if ← accept ['?', '>'] then return .atomic (← groupBody size fuel depth)
    if ← accept ['?', '('] then return ← conditional size fuel depth
    if ← accept ['?'] then return ← flagGroup size fuel depth
    modify fun s => { s with groups := s.groups + 1 }
    let n := (← get).groups
    return .capture n (← groupBody size fuel depth)

/-- Read the inside of a group and the parenthesis that closes it. -/
def groupBody (size : Nat) : Nat → Nat → Parser Regex
  | 0, _ => throw .nestedTooDeeply
  | fuel + 1, depth => withFlagsKept do
    let r ← alternatives size fuel depth
    closeGroup
    return r

/-- Read a named group behind the bracket that opens its name. -/
def namedCapture (size : Nat) : Nat → Nat → Parser Regex
  | 0, _ => throw .nestedTooDeeply
  | fuel + 1, depth => do
    let s ← get
    let n := s.groups + 1
    match readName? false '>' s.rest with
    | none => throw .invalidGroupName
    | some (name, rest) =>
      set { s with rest, groups := n, names := (name, n) :: s.names }
      return .capture n (← groupBody size fuel depth)

/-- Read flags behind the question mark, and the group they are for, if they have one. -/
def flagGroup (size : Nat) : Nat → Nat → Parser Regex
  | 0, _ => throw .nestedTooDeeply
  | fuel + 1, depth => do
    let flags := (← get).flags
    if ← flagLetters ((← get).rest.length + 1) 0 false then
      let r ← alternatives size fuel depth
      unless ← accept [')'] do throw .unclosedGroup
      modify fun s => { s with flags }
      return r
    else return .empty

/-- Read a conditional behind the parenthesis that opens its condition. -/
def conditional (size : Nat) : Nat → Nat → Parser Regex
  | 0, _ => throw .nestedTooDeeply
  | fuel + 1, depth => do
    let c := (← peek).getD ')'
    let (condition, named) ←
      if c.isDigit then pure (.groupSet (← requireOpened (← numberedGroup size)), true)
      else if ← accept ['\''] then pure (.groupSet (← openedGroup true '\''), true)
      else if ← accept ['<'] then pure (.groupSet (← openedGroup true '>'), true)
      else match ← alternatives size fuel depth with
        | .reference n => pure (.groupSet n, true)
        | r => pure (r, false)
    closeGroup
    let before := (← get).rest.length
    let inner ← alternatives size fuel depth
    if (← get).rest.length == before then
      if named then
        closeGroup
        return condition
      throw .emptyConditional
    let (yes, no) := branches inner
    closeGroup
    if yes.isEmpty && no.isEmpty then return condition
    return .conditional condition yes no

end

end Parser

/-- A pattern as read: the expression, the groups that are referred to, and the number of
groups. -/
structure ParsedRegex where
  regex : Regex
  referenced : List Nat
  groups : Nat
deriving Repr, Inhabited

/-- Read the source of a pattern. -/
def Regex.parse (source : Text) : Except RegexError ParsedRegex := do
  let read := Parser.alternatives (Text.byteLength source) (8 * source.length + 16) 0
  let (regex, s) ← read.run { rest := source }
  if s.rest.isEmpty then return ⟨regex, s.referenced, s.groups⟩ else throw .unopenedGroup

end SheetLex
