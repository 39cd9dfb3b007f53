import ElixirLexer.Diagnostic
import ElixirLexer.Token.Basic

/-!
# Events of a lexing session

What a session tells about itself as it goes.  Every change of the stack has its event, with one
exception: modifier frames that are still open at the end of the text are dropped in silence.
-/

namespace ElixirLexer

/-- Something that happened in a session. -/
inductive Event
  /-- A mode gave way to the one beneath it. -/
  | gaveWay (offset : Nat) (mode : ModeId)
  /-- The stack, of the given depth, is about to change. -/
  | transition (change : Transition) (depth : Nat)
  | badCharacter (diagnostic : Diagnostic)
  | token (token : Token)
  /-- A construct was still open at the end of the text. -/
  | unterminated (diagnostic : Diagnostic)
  /-- The text ended, with so many frames open and so many diagnostics in all. -/
  | endOfInput (offset openFrames diagnostics : Nat)
  deriving DecidableEq

end ElixirLexer
