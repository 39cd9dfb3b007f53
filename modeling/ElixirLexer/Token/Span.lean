/-!
# Spans

A span is a half-open range of a text, counted in characters.
-/

namespace ElixirLexer

/-- The range that starts at `start` and has `length` characters. -/
structure Span where
  start : Nat
  length : Nat
  deriving DecidableEq

namespace Span

/-- The offset just behind the span. -/
def stop (span : Span) : Nat :=
  span.start + span.length

/-- Whether the span covers nothing. -/
def isEmpty (span : Span) : Bool :=
  span.length == 0

end Span

end ElixirLexer
