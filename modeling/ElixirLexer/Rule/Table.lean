import ElixirLexer.Rule.Heredoc
import ElixirLexer.Rule.Interpolation
import ElixirLexer.Rule.Number
import ElixirLexer.Rule.Symbol
import ElixirLexer.Rule.Trivia
import ElixirLexer.Rule.Word

/-!
# The tables of rules

Each mode has a table of rules.  The order of a table matters only between matches that reach
equally far, where the earlier rule wins.
-/

namespace ElixirLexer

/-- The rules. -/
inductive Rule
  | whitespace
  | eol
  | comment
  | heredocOpening
  | stringOpening
  | charListOpening
  | sigilOpening
  | charToken
  | number
  | atom
  | keyword
  | identifier
  | aliasName
  | operator
  | punctuation
  | sigilName
  | sigilHeredoc
  | sigilDelimiter
  | sigilModifier
  | interpolationStart
  | interpolationBrace
  | groupBody
  | groupTerminator
  | heredocTrailing
  | heredocOpeningEol
  | heredocTerminator
  | heredocLine
  deriving DecidableEq

namespace Rule

/-- What a rule answers to a scan.  A rule that needs the context of its own mode declines in all
others. -/
def answer : Rule → Scan → Option Match
  | whitespace => Scan.whitespace
  | eol => Scan.eol
  | comment => Scan.comment
  | heredocOpening => Scan.heredocOpening
  | stringOpening => Scan.stringOpening
  | charListOpening => Scan.charListOpening
  | sigilOpening => Scan.sigilOpening
  | charToken => Scan.charToken
  | number => Scan.number
  | atom => Scan.atom
  | keyword => Scan.keyword
  | identifier => Scan.identifier
  | aliasName => Scan.aliasName
  | operator => Scan.operator
  | punctuation => Scan.punctuation
  | sigilName => Scan.sigilName
  | sigilHeredoc => Scan.sigilHeredoc
  | sigilDelimiter => Scan.sigilDelimiter
  | sigilModifier => Scan.sigilModifier
  | interpolationStart => Scan.interpolationStart
  | interpolationBrace => Scan.interpolationBrace
  | groupBody => Scan.groupBody
  | groupTerminator => Scan.groupTerminator
  | heredocTrailing => Scan.heredocTrailing
  | heredocOpeningEol => Scan.heredocOpeningEol
  | heredocTerminator => Scan.heredocTerminator
  | heredocLine => Scan.heredocLine

/-- The rules of code. -/
def code : List Rule :=
  [whitespace, eol, comment, heredocOpening, stringOpening, charListOpening, sigilOpening,
    charToken, number, atom, keyword, identifier, aliasName, operator, punctuation]

/-- The rules of a mode.  Interpolated code is code in which braces are counted first. -/
def table : ModeId → List Rule
  | .initial => code
  | .interpolation => interpolationBrace :: code
  | .sigilName => [sigilName]
  | .sigilDelimiter => [sigilHeredoc, sigilDelimiter]
  | .sigilModifiers => [sigilModifier]
  | .group => [interpolationStart, groupTerminator, groupBody]
  | .heredocOpen => [heredocOpeningEol, heredocTrailing]
  | .heredocBody => [heredocTerminator, eol, interpolationStart, heredocLine]

end Rule

end ElixirLexer
