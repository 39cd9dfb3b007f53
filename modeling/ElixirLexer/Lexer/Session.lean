import ElixirLexer.Lexer.Run

/-!
# Sessions of commands

A client of a lexer reads tokens, takes snapshots and goes back to them, in any order and from one
text to another.  Here such a client is a list of commands.  A command that ends in a fault answers
with it, and the session goes on with what the fault left.
-/

namespace ElixirLexer

/-- How a lexer is opened. -/
inductive Opening
  /-- In plain code. -/
  | plain (options : Options)
  /-- Inside a mode, with the default options. -/
  | inside (mode : Mode)

/-- A new lexer for a text. -/
def Opening.lexer : Opening → List Char → Except Fault Lexer
  | plain options, text => .ok (Lexer.ofText text options)
  | inside mode, text => Lexer.inMode text mode

namespace Lexer

/-- What a client can ask for. -/
inductive Command
  /-- The next token, or the end mark. -/
  | next
  /-- The next token, unless it is the end mark. -/
  | advance
  | take (count : Nat)
  | drain
  | snapshot
  /-- Goes to the snapshot with the given number. -/
  | restore (id : Nat)
  /-- Goes on from a snapshot with a new lexer, in another text or in the current one. -/
  | resume (id : Nat) (text : Option (List Char)) (options : Options)
  /-- Opens a new lexer and keeps the snapshots. -/
  | start (text : List Char) (opening : Opening)
  | frames
  | diagnostics
  | options

/-- What a client gets. -/
inductive Answer
  | done
  | token (token : Token)
  | noToken
  | tokens (tokens : List Token)
  | snapshot (id : Nat) (snapshot : Snapshot)
  | frames (frames : List Frame)
  | diagnostics (diagnostics : List Diagnostic)
  | options (options : Options)
  | fault (fault : Fault)
  /-- The command names a snapshot that was never taken. -/
  | noSuchSnapshot

/-- A lexer and the snapshots taken so far, oldest first. -/
structure Session where
  lexer : Lexer
  snapshots : List Snapshot := []

namespace Session

/-- The answer to a run, and the session behind it. -/
def ofRun (session : Session) (answer : List Token → Answer) :
    Except Fault Run → Answer × Session
  | .error fault => (.fault fault, session)
  | .ok run => (answer run.tokens, { session with lexer := run.lexer })

/-- Replaces the lexer, if there is a new one. -/
def replace (session : Session) : Except Fault Lexer → Answer × Session
  | .error fault => (.fault fault, session)
  | .ok lexer => (.done, { session with lexer })

/-- The first of the tokens. -/
def single : List Token → Answer
  | [] => .noToken
  | token :: _ => .token token

/-- Carries out one command. -/
def perform (session : Session) : Command → Answer × Session
  | .next => session.ofRun single (session.lexer.pull 1)
  | .advance => session.ofRun single (session.lexer.take 1)
  | .take count => session.ofRun .tokens (session.lexer.take count)
  | .drain => session.ofRun .tokens session.lexer.drain
  | .snapshot =>
      let taken := session.lexer.snapshot
      (.snapshot session.snapshots.length taken,
        { session with snapshots := session.snapshots ++ [taken] })
  | .restore id =>
      match session.snapshots[id]? with
      | none => (.noSuchSnapshot, session)
      | some target =>
          match session.lexer.restore target with
          | (.ok (), lexer) => (.done, { session with lexer })
          | (.error fault, lexer) => (.fault fault, { session with lexer })
  | .resume id text options =>
      match session.snapshots[id]? with
      | none => (.noSuchSnapshot, session)
      | some target =>
          session.replace
            (Lexer.resume (text.getD session.lexer.cursor.text) target options)
  | .start text opening => session.replace (opening.lexer text)
  | .frames => (.frames session.lexer.stack.frames, session)
  | .diagnostics => (.diagnostics session.lexer.diagnostics, session)
  | .options => (.options session.lexer.options, session)

/-- Carries out several commands.  Each answer comes with the session that the command left. -/
def performAll (session : Session) : List Command → List (Answer × Session)
  | [] => []
  | command :: later =>
      session.perform command :: (session.perform command).2.performAll later

end Session

end Lexer

end ElixirLexer
