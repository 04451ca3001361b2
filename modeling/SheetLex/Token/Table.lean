/-!
# Tables of patterns

Ready-made lists of patterns in order of precedence, each given by its name and its source.
-/

set_option autoImplicit false

namespace SheetLex.Table

/-- Simple declarations: a property, a colon, a value and a semicolon. -/
def declaration : List (String × String) :=
  [("prop", "[a-z]+"),
    ("colon", ":"),
    ("ws", "\\s+"),
    ("value", "[a-z]+"),
    ("semi", ";")]

/-- Expressions. The names that begin with `KW` stand for what precedes a colon. -/
def expression : List (String × String) :=
  [(":", ":"),
    (",", ","),
    ("WS", "[ \\r\\t\\n]+"),
    ("LPAR", "\\(|\\["),
    ("RPAR", "\\)|\\]"),
    ("END", "$"),
    ("MUL", "[*]"),
    ("DIV", "/"),
    ("ADD", "[+]"),
    ("SUB", "-\\s"),
    ("SIGN", "-(?![a-zA-Z_])"),
    ("AND", "(?<![-\\w])and(?![-\\w])"),
    ("OR", "(?<![-\\w])or(?![-\\w])"),
    ("NOT", "(?<![-\\w])not(?![-\\w])"),
    ("NE", "!="),
    ("INV", "!"),
    ("EQ", "=="),
    ("LE", "<="),
    ("GE", ">="),
    ("LT", "<"),
    ("GT", ">"),
    ("DOTDOTDOT", "[.]\x7b3\x7d"),
    ("KWSTR", "'[^']*'(?=\\s*:)"),
    ("STR", "'[^']*'"),
    ("KWQSTR", "\"[^\"]*\"(?=\\s*:)"),
    ("QSTR", "\"[^\"]*\""),
    ("UNITS", "(?<!\\s)(?:[a-zA-Z]+|%)(?![-\\w])"),
    ("KWNUM", "(?:\\d+(?:\\.\\d*)?|\\.\\d+)(?=\\s*:)"),
    ("NUM", "(?:\\d+(?:\\.\\d*)?|\\.\\d+)"),
    ("KWCOLOR", "#(?:[a-fA-F0-9]\x7b6\x7d|[a-fA-F0-9]\x7b3\x7d)(?![a-fA-F0-9])(?=\\s*:)"),
    ("COLOR", "#(?:[a-fA-F0-9]\x7b6\x7d|[a-fA-F0-9]\x7b3\x7d)(?![a-fA-F0-9])"),
    ("KWVAR", "\\$[-a-zA-Z0-9_]+(?=\\s*:)"),
    ("SLURPYVAR", "\\$[-a-zA-Z0-9_]+(?=[.][.][.])"),
    ("VAR", "\\$[-a-zA-Z0-9_]+"),
    ("FNCT", "[-a-zA-Z_][-a-zA-Z0-9_]*(?=\\()"),
    ("KWID", "[-a-zA-Z_][-a-zA-Z0-9_]*(?=\\s*:)"),
    ("ID", "[-a-zA-Z_][-a-zA-Z0-9_]*"),
    ("BANG_IMPORTANT", "!important")]

/-- A selection of expression patterns, with one that can match no characters at all. -/
def sample : List (String × String) :=
  [(":", ":"),
    (",", ","),
    ("WS", "[ \\r\\t\\n]+"),
    ("LPAR", "\\(|\\["),
    ("RPAR", "\\)|\\]"),
    ("END", "$"),
    ("MUL", "[*]"),
    ("SUB", "-\\s"),
    ("STR", "'[^']*'"),
    ("UNITS", "(?<!\\s)(?:[a-zA-Z]+|%)(?![-\\w])"),
    ("NUM", "(?:\\d+(?:\\.\\d*)?|\\.\\d+)"),
    ("OPT", "x*"),
    ("VAR", "\\$[-a-zA-Z0-9_]+"),
    ("KWID", "[-a-zA-Z_][-a-zA-Z0-9_]*(?=\\s*:)"),
    ("ID", "[-a-zA-Z_][-a-zA-Z0-9_]*")]

/-- The names in a table that the bits of a number select, in the order of the table. -/
def selectNames (table : List (String × String)) (bits : Nat) : List String :=
  table.zipIdx.filterMap fun (p, i) => if bits.testBit i then some p.1 else none

end SheetLex.Table
