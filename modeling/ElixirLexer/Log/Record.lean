import ElixirLexer.Log.Event
import ElixirLexer.Mode.Printer

/-!
# Log records

The form in which an event is logged: a level, the name of the log, a message and named fields.
-/

namespace ElixirLexer

/-- How important a record is. -/
inductive Level
  | trace
  | debug
  deriving DecidableEq

/-- The name of a level. -/
def Level.name : Level → String
  | .trace => "TRACE"
  | .debug => "DEBUG"

/-- The value of a field. -/
inductive Field
  | number (value : Nat)
  | text (value : String)
  deriving DecidableEq

/-- A logged event. -/
structure Record where
  level : Level
  message : String
  fields : List (String × Field)
  deriving DecidableEq

/-- The log that records of a session belong to. -/
def Record.target : String :=
  "exlex::lexer"

/-- The record of an event.  Problems with the text are logged above the steps of the lexer. -/
def Event.record : Event → Record
  | .gaveWay offset mode =>
      ⟨.trace, "yield", [("offset", .number offset), ("mode", .text mode.name)]⟩
  | .transition change depth =>
      ⟨.trace, "transition", [("transition", .text change.print), ("depth", .number depth)]⟩
  | .badCharacter diagnostic =>
      ⟨.debug, "bad character", [("diagnostic", .text diagnostic.message)]⟩
  | .token made =>
      ⟨.trace, "token", [
        ("kind", .text made.kind.name),
        ("start", .number made.span.start),
        ("len", .number made.span.length),
        ("state", .text made.state.name)]⟩
  | .unterminated diagnostic =>
      ⟨.debug, "unterminated construct", [("diagnostic", .text diagnostic.message)]⟩
  | .endOfInput offset openFrames diagnostics =>
      ⟨.debug, "end of input", [
        ("end", .number offset),
        ("open_frames", .number openFrames),
        ("diagnostics", .number diagnostics)]⟩

end ElixirLexer
