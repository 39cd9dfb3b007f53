import ElixirLexer.Lexer.Basic
import ElixirLexer.Text.Source

/-!
# Runs

Several steps of a lexer in a row.  A run to the end needs no more steps than there are characters
ahead, and one more for the end mark, as every other step passes a character.
-/

namespace ElixirLexer

/-- The tokens and events of some steps, oldest first, and the lexer behind them. -/
structure Run where
  tokens : List Token
  events : List Event
  lexer : Lexer

namespace Lexer

/-- Exactly `count` steps, those at the end of the text included. -/
def pull : Nat → Lexer → Except Fault Run
  | 0, lexer => .ok ⟨[], [], lexer⟩
  | count + 1, lexer => do
      let step ← lexer.step
      let later ← step.lexer.pull count
      pure ⟨step.token :: later.tokens, step.events ++ later.events, later.lexer⟩

/-- At most `count` steps.  The run ends with the first end mark, which is not among its tokens. -/
def take : Nat → Lexer → Except Fault Run
  | 0, lexer => .ok ⟨[], [], lexer⟩
  | count + 1, lexer => do
      let step ← lexer.step
      if step.token.isEnd then pure ⟨[], step.events, step.lexer⟩
      else
        let later ← step.lexer.take count
        pure ⟨step.token :: later.tokens, step.events ++ later.events, later.lexer⟩

/-- All steps up to the end mark. -/
def drain (lexer : Lexer) : Except Fault Run :=
  lexer.take (lexer.cursor.remaining + 1)

/-- The events up to the end mark and of one step more. -/
def log (lexer : Lexer) : Except Fault (List Event) := do
  let run ← lexer.drain
  let later ← run.lexer.pull 1
  pure (run.events ++ later.events)

end Lexer

/-! ## Whole texts -/

/-- All that there is to say about a text. -/
structure Lexed where
  source : Source
  /-- Without the end mark. -/
  tokens : List Token
  diagnostics : List Diagnostic
  /-- The frames left at the end, from the bottom to the top. -/
  finalFrames : List Frame

namespace Lexed

/-- The text of a token. -/
def text (lexed : Lexed) (token : Token) : List Char :=
  lexed.source.slice token.span

/-- The text of a token without the indentation that is taken off. -/
def value (lexed : Lexed) (token : Token) : List Char :=
  lexed.source.slice token.valueSpan

/-- Whether every construct has its end. -/
def isBalanced (lexed : Lexed) : Bool :=
  lexed.finalFrames.length == 1

/-- The tokens of a text without problems, or the first problem. -/
def result (lexed : Lexed) : Except Diagnostic (List Token) :=
  match lexed.diagnostics with
  | [] => .ok lexed.tokens
  | first :: _ => .error first

end Lexed

/-- Lexes a text from its start to its end. -/
def tokenize (options : Options) (text : List Char) : Except Fault Lexed := do
  let run ← (Lexer.ofText text options).drain
  pure ⟨Source.ofList text, run.tokens, run.lexer.diagnostics, run.lexer.stack.frames⟩

end ElixirLexer
