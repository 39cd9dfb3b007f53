import ElixirLexer.Classify
import ElixirLexer.Lexer.Snapshot
import ElixirLexer.Log.Event

/-!
# The lexer

A lexer is a place in a text, a stack of modes and what has been reported.  One step classifies the
text under the top mode, consumes the match, carries out its transition and only then makes the
token, so a token carries the mode it leaves behind.  Modes that give way are popped first, and the
same text is classified again.

At the end of the text a step reports what is still open, once; every step from there on gives the
same end mark.  A match that overruns the text, or a transition that does not fit the stack, makes
the step answer with a fault.  The rules are meant to ask for neither, but nothing here relies on
that.
-/

namespace ElixirLexer

/-- A lexing session. -/
structure Lexer where
  cursor : Cursor
  stack : Stack
  options : Options
  /-- Oldest first. -/
  diagnostics : List Diagnostic
  /-- Whether the end of the text has been reported. -/
  finished : Bool

/-- What one step leaves. -/
structure Step where
  token : Token
  /-- Oldest first. -/
  events : List Event
  lexer : Lexer

/-- A match, the stack it was found under and the events on the way to it. -/
structure Choice where
  found : Match
  stack : Stack
  events : List Event

namespace Lexer

/-! ## Sessions begin -/

/-- A session in plain code at the start of a text. -/
def ofText (text : List Char) (options : Options) : Lexer :=
  ⟨Cursor.ofText text, Stack.initial, options, [], false⟩

/-- A session that begins inside `mode`. -/
def inMode (text : List Char) (mode : Mode) : Except Fault Lexer :=
  (Stack.ofFrames [⟨.initial, 0⟩, ⟨mode, 0⟩]).map fun stack =>
    { ofText text {} with stack }

/-- The characters passed so far. -/
def offset (lexer : Lexer) : Nat :=
  lexer.cursor.offset

/-! ## Steps -/

/-- The match under the top frame, or under the first frame beneath it that does not give way.  The
frames are listed from the top; beneath them is the initial frame, opened at `base`. -/
def choose (cursor : Cursor) (options : Options) (base : Nat) : List Frame → Except Fault Choice
  | [] =>
      match classify cursor .initial options with
      | .emit found => .ok ⟨found, ⟨[], base⟩, []⟩
      | .giveWay => .error .popInitial
  | frame :: below =>
      match classify cursor frame.mode options with
      | .emit found => .ok ⟨found, ⟨frame :: below, base⟩, []⟩
      | .giveWay =>
          (choose cursor options base below).map fun choice =>
            { choice with events := .gaveWay cursor.offset frame.mode.id :: choice.events }

/-- The report that a match calls for. -/
def badCharacters (lexer : Lexer) (found : Match) : List Diagnostic :=
  if found.kind = .badCharacter ∧ lexer.options.reportBadCharacters then
    lexer.cursor.first?.toList.map fun c => Diagnostic.badCharacter c lexer.offset
  else
    []

/-- The event of a transition that changes something. -/
def transitionEvents (change : Transition) (depth : Nat) : List Event :=
  if change = .stay then [] else [.transition change depth]

/-- Consumes a match and makes its token. -/
def emit (lexer : Lexer) (choice : Choice) : Except Fault Step := do
  let found := choice.found
  let cursor ← lexer.cursor.advance found.length
  let stack ← choice.stack.apply found.transition lexer.offset
  let reports := lexer.badCharacters found
  let token : Token :=
    ⟨found.kind, ⟨lexer.offset, found.length⟩, stack.top.mode.id, found.indent⟩
  pure {
    token
    events := choice.events ++ transitionEvents found.transition choice.stack.depth
      ++ reports.map .badCharacter ++ [.token token]
    lexer := { lexer with cursor, stack, diagnostics := lexer.diagnostics ++ reports } }

/-- The stack without the modifier frames on top. -/
def withoutModifiers (stack : Stack) : Stack :=
  { stack with above := stack.above.dropWhile fun frame => frame.mode == .sigilModifiers }

/-- The reports of all open frames, innermost first. -/
def unterminated (stack : Stack) (offset : Nat) : List Diagnostic :=
  stack.above.filterMap fun frame => Diagnostic.unterminated? frame offset

/-- The step at the end of the text. -/
def finish (lexer : Lexer) : Step :=
  if lexer.finished then
    ⟨Token.endMark lexer.offset lexer.stack.top.mode.id, [], lexer⟩
  else
    let stack := withoutModifiers lexer.stack
    let reports := unterminated stack lexer.offset
    let diagnostics := lexer.diagnostics ++ reports
    { token := Token.endMark lexer.offset stack.top.mode.id
      events := reports.map .unterminated
        ++ [.endOfInput lexer.offset stack.depth diagnostics.length]
      lexer := { lexer with stack, diagnostics, finished := true } }

/-- The next token, or the end mark. -/
def step (lexer : Lexer) : Except Fault Step :=
  if lexer.cursor.atEnd then .ok lexer.finish
  else do
    let choice ← choose lexer.cursor lexer.options lexer.stack.base lexer.stack.above
    lexer.emit choice

/-! ## Snapshots -/

/-- The current place. -/
def snapshot (lexer : Lexer) : Snapshot :=
  ⟨lexer.offset, lexer.stack.frames⟩

/-- A session that goes on in `text` from a snapshot, with nothing reported yet. -/
def resume (text : List Char) (snapshot : Snapshot) (options : Options) : Except Fault Lexer := do
  let cursor ← Cursor.atOffset text snapshot.offset
  let stack ← snapshot.stack
  pure ⟨cursor, stack, options, [], false⟩

/-- Takes the session back, or forward, to a snapshot.  Reports from the snapshot on are dropped,
because they will be found again.  Answers whether it could be done, and the lexer it leaves in
either case. -/
def restore (lexer : Lexer) (snapshot : Snapshot) : Except Fault Unit × Lexer :=
  match Cursor.atOffset lexer.cursor.text snapshot.offset with
  | .error fault => (.error fault, lexer)
  | .ok cursor =>
      match snapshot.stack with
      | .error fault => (.error fault, { lexer with cursor })
      | .ok stack =>
          (.ok (), { lexer with
            cursor, stack
            diagnostics := lexer.diagnostics.filter fun diagnostic =>
              diagnostic.offset < snapshot.offset
            finished := false })

end Lexer

end ElixirLexer
