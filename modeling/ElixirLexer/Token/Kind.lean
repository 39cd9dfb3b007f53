/-!
# Token kinds

What a token can be.  Every kind has one name, and a name is read back to its kind.
-/

namespace ElixirLexer

/-- The kinds of tokens. -/
inductive Kind
  /-- Blanks within a line, and an accepted byte-order mark. -/
  | whitespace
  /-- A line break. -/
  | eol
  /-- From `#` to the end of the line. -/
  | comment
  /-- An integer or a float. -/
  | number
  /-- A character literal such as `?a`. -/
  | charToken
  | identifier
  /-- A capitalised name. -/
  | aliasName
  /-- A reserved word. -/
  | keyword
  /-- A colon and a name. -/
  | atom
  | operator
  | semicolon
  | comma
  | openParen
  | closeParen
  | openBracket
  | closeBracket
  | openBrace
  | closeBrace
  /-- The `~` in front of a sigil. -/
  | tilde
  /-- The letter that names a sigil. -/
  | sigilName
  /-- The delimiter that opens a sigil. -/
  | sigilPromoter
  | sigilBody
  | sigilTerminator
  /-- One letter behind the closing delimiter of a sigil. -/
  | sigilModifier
  | stringPromoter
  | stringBody
  | stringTerminator
  | charListPromoter
  | charListBody
  | charListTerminator
  /-- Three quotes that open a heredoc. -/
  | heredocPromoter
  /-- What follows the promoter on its line. -/
  | heredocTrailing
  /-- A body line of a heredoc, or the part of one up to or after an interpolation. -/
  | heredocLine
  /-- The closing marker of a heredoc with the indentation in front of it. -/
  | heredocTerminator
  | interpolationStart
  | interpolationEnd
  /-- A character that begins no token. -/
  | badCharacter
  /-- The mark of length zero behind the last character. -/
  | endOfInput
  deriving DecidableEq

namespace Kind

/-- The name of a kind. -/
def name : Kind → String
  | whitespace => "Whitespace"
  | eol => "Eol"
  | comment => "Comment"
  | number => "Number"
  | charToken => "CharToken"
  | identifier => "Identifier"
  | aliasName => "Alias"
  | keyword => "Keyword"
  | atom => "Atom"
  | operator => "Operator"
  | semicolon => "Semicolon"
  | comma => "Comma"
  | openParen => "OpenParen"
  | closeParen => "CloseParen"
  | openBracket => "OpenBracket"
  | closeBracket => "CloseBracket"
  | openBrace => "OpenBrace"
  | closeBrace => "CloseBrace"
  | tilde => "Tilde"
  | sigilName => "SigilName"
  | sigilPromoter => "SigilPromoter"
  | sigilBody => "SigilBody"
  | sigilTerminator => "SigilTerminator"
  | sigilModifier => "SigilModifier"
  | stringPromoter => "StringPromoter"
  | stringBody => "StringBody"
  | stringTerminator => "StringTerminator"
  | charListPromoter => "CharListPromoter"
  | charListBody => "CharListBody"
  | charListTerminator => "CharListTerminator"
  | heredocPromoter => "HeredocPromoter"
  | heredocTrailing => "HeredocTrailing"
  | heredocLine => "HeredocLine"
  | heredocTerminator => "HeredocTerminator"
  | interpolationStart => "InterpolationStart"
  | interpolationEnd => "InterpolationEnd"
  | badCharacter => "BadCharacter"
  | endOfInput => "EndOfInput"

/-- All kinds. -/
def all : List Kind := [
  whitespace, eol, comment, number, charToken, identifier, aliasName, keyword, atom, operator,
  semicolon, comma, openParen, closeParen, openBracket, closeBracket, openBrace, closeBrace,
  tilde, sigilName, sigilPromoter, sigilBody, sigilTerminator, sigilModifier,
  stringPromoter, stringBody, stringTerminator,
  charListPromoter, charListBody, charListTerminator,
  heredocPromoter, heredocTrailing, heredocLine, heredocTerminator,
  interpolationStart, interpolationEnd, badCharacter, endOfInput]

/-- The kind that has the given name. -/
def ofName? (text : String) : Option Kind :=
  all.find? fun kind => kind.name == text

theorem mem_all (kind : Kind) : kind ∈ all := by
  cases kind <;> decide

/-- Every kind is read back from its name, so no two kinds share one. -/
theorem ofName?_name (kind : Kind) : ofName? kind.name = some kind := by
  cases kind <;> decide

end Kind

end ElixirLexer
