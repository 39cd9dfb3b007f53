import ElixirLexer.Mode.Basic
import ElixirLexer.Token.Span

/-!
# Tokens
-/

namespace ElixirLexer

/-- A piece of the text. -/
structure Token where
  kind : Kind
  span : Span
  /-- The mode in effect behind the token. -/
  state : ModeId
  /-- Number of leading characters that are not part of the value. -/
  indent : Nat
  deriving DecidableEq

namespace Token

/-- The mark behind the last character of a text. -/
def endMark (offset : Nat) (state : ModeId) : Token :=
  ⟨.endOfInput, ⟨offset, 0⟩, state, 0⟩

/-- The span without the indentation that is taken off. -/
def valueSpan (token : Token) : Span :=
  ⟨token.span.start + token.indent, token.span.length - token.indent⟩

/-- Whether the token is the mark behind the text. -/
def isEnd (token : Token) : Bool :=
  token.kind == .endOfInput

end Token

end ElixirLexer
