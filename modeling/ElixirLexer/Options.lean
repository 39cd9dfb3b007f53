/-!
# Options

What a lexing session can be told to do differently.
-/

namespace ElixirLexer

/-- The options of a session. -/
structure Options where
  /-- A byte-order mark at the start of the text is white space; otherwise it is a bad character. -/
  acceptByteOrderMark : Bool := true
  /-- Bad characters are reported as diagnostics.  They are tokens either way. -/
  reportBadCharacters : Bool := true
  deriving DecidableEq

end ElixirLexer
