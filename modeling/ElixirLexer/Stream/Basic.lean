import ElixirLexer.Lexer.Run

/-!
# Token streams

A stream hands out the tokens of a lexer one by one, lets the reader look one token ahead and go
back to an earlier place.  Going back restores the lexer from a snapshot, so nothing is lexed twice
from the start.
-/

namespace ElixirLexer

/-- A lexer with at most one token read ahead. -/
structure Stream where
  lexer : Lexer
  /-- The token read ahead, and the place in front of it. -/
  peeked : Option (Snapshot × Token) := none
  /-- Number of tokens handed out, the end mark not counted. -/
  consumed : Nat := 0

/-- A place in a stream. -/
structure Checkpoint where
  snapshot : Snapshot
  consumed : Nat
  deriving DecidableEq

/-- Whether tokens of this kind can be skipped: blanks and comments, but not line breaks. -/
def Kind.isTrivia (kind : Kind) : Bool :=
  kind == .whitespace || kind == .comment

namespace Stream

/-! ## Reading -/

/-- The next token, which stays next. -/
def peek (stream : Stream) : Except Fault (Token × Stream) :=
  match stream.peeked with
  | some (_, token) => .ok (token, stream)
  | none => do
      let step ← stream.lexer.step
      pure (step.token,
        { stream with lexer := step.lexer, peeked := some (stream.lexer.snapshot, step.token) })

/-- The stream behind a token that is handed out. -/
def handOut (stream : Stream) (token : Token) (lexer : Lexer) : Token × Stream :=
  (token, ⟨lexer, none, if token.isEnd then stream.consumed else stream.consumed + 1⟩)

/-- Hands out the next token; at the end, the end mark. -/
def next (stream : Stream) : Except Fault (Token × Stream) :=
  match stream.peeked with
  | some (_, token) => .ok (stream.handOut token stream.lexer)
  | none => do
      let step ← stream.lexer.step
      pure (stream.handOut step.token step.lexer)

/-- Hands out the next token if it has the given kind. -/
def eat (stream : Stream) (kind : Kind) : Except Fault (Option Token × Stream) := do
  let (token, ahead) ← stream.peek
  if token.kind = kind then
    let (token, behind) ← ahead.next
    pure (some token, behind)
  else
    pure (none, ahead)

/-- Skips at most `count` blanks and comments. -/
def skipTriviaUpTo : Nat → Stream → Except Fault Stream
  | 0, stream => .ok stream
  | count + 1, stream => do
      let (token, ahead) ← stream.peek
      if token.kind.isTrivia then
        let (_, behind) ← ahead.next
        skipTriviaUpTo count behind
      else
        pure ahead

/-- Skips blanks and comments up to any other token, which is then the next one.  There are no more
tokens to skip than characters ahead and the one token that may have been read ahead. -/
def skipTrivia (stream : Stream) : Except Fault Stream :=
  skipTriviaUpTo (stream.lexer.cursor.remaining + 2) stream

/-- Whether only the end mark is left. -/
def isAtEnd (stream : Stream) : Except Fault (Bool × Stream) := do
  let (token, ahead) ← stream.peek
  pure (token.isEnd, ahead)

/-- Hands out at most `count` tokens.  The end mark ends the list and is not in it. -/
def take : Nat → Stream → Except Fault (List Token × Stream)
  | 0, stream => .ok ([], stream)
  | count + 1, stream => do
      let (token, behind) ← stream.next
      if token.isEnd then pure ([], behind)
      else
        let (later, last) ← take count behind
        pure (token :: later, last)

/-- Hands out all tokens that are left. -/
def drain (stream : Stream) : Except Fault (List Token × Stream) :=
  stream.take (stream.lexer.cursor.remaining + 2)

/-! ## Going back -/

/-- The place in front of the next token, whether or not that token has been read ahead. -/
def checkpoint (stream : Stream) : Checkpoint :=
  match stream.peeked with
  | some (before, _) => ⟨before, stream.consumed⟩
  | none => ⟨stream.lexer.snapshot, stream.consumed⟩

/-- Goes to a checkpoint.  Answers whether it could be done, and the stream it leaves in either
case: a token read ahead is dropped even if the lexer stays where it is. -/
def rewind (stream : Stream) (checkpoint : Checkpoint) : Except Fault Unit × Stream :=
  match stream.lexer.restore checkpoint.snapshot with
  | (.ok (), lexer) => (.ok (), ⟨lexer, none, checkpoint.consumed⟩)
  | (.error fault, lexer) => (.error fault, ⟨lexer, none, stream.consumed⟩)

/-- What has been reported, for a token read ahead too. -/
def diagnostics (stream : Stream) : List Diagnostic :=
  stream.lexer.diagnostics

end Stream

end ElixirLexer
