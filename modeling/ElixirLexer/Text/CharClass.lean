import ElixirLexer.Unicode.WhiteSpace
import ElixirLexer.Unicode.Lowercase
import ElixirLexer.Unicode.Uppercase
import ElixirLexer.Unicode.Alphabetic
import ElixirLexer.Unicode.Numeric

/-!
# Character classes of Elixir source

The classes by which the rules tell characters apart.  Letters of words follow Unicode; digits,
sigil letters and sigil modifiers are ASCII only.
-/

namespace ElixirLexer

/-- U+FEFF, which may stand in front of a file. -/
def byteOrderMark : Char := '\uFEFF'

/-- A character that ends a line.  A carriage return ends it whether or not a newline follows. -/
def isLineBreak (c : Char) : Bool :=
  c == '\n' || c == '\r'

/-- White space that stays on its line. -/
def isBlank (c : Char) : Bool :=
  Unicode.isWhiteSpace c && !isLineBreak c

/-- What counts as indentation in a heredoc. -/
def isIndent (c : Char) : Bool :=
  c == ' ' || c == '\t'

/-- First character of an identifier or keyword. -/
def isIdentifierStart (c : Char) : Bool :=
  Unicode.isLowercase c || c == '_'

/-- Later characters of identifiers, atoms and aliases. -/
def isIdentifierRest (c : Char) : Bool :=
  Unicode.isAlphabetic c || Unicode.isNumeric c || c == '_'

/-- Decimal digits and the underscores that group them. -/
def isDecimalDigit (c : Char) : Bool :=
  c.isDigit || c == '_'

/-- Hexadecimal digits and underscores. -/
def isHexDigit (c : Char) : Bool :=
  c.isDigit || ('a' ≤ c && c ≤ 'f') || ('A' ≤ c && c ≤ 'F') || c == '_'

/-- Octal digits and underscores. -/
def isOctalDigit (c : Char) : Bool :=
  ('0' ≤ c && c ≤ '7') || c == '_'

/-- Binary digits and underscores. -/
def isBinaryDigit (c : Char) : Bool :=
  c == '0' || c == '1' || c == '_'

/-- Characters that may open the body of a sigil. -/
def isSigilDelimiter (c : Char) : Bool :=
  ['/', '|', '"', '\'', '(', '[', '{', '<'].contains c

/-- Length of the line break at the head of the text, or zero.  A carriage return and the newline
after it are one break. -/
def lineBreakLength : List Char → Nat
  | [] => 0
  | c :: rest =>
      if c = '\n' then 1
      else if c = '\r' then if rest.head? = some '\n' then 2 else 1
      else 0

end ElixirLexer
