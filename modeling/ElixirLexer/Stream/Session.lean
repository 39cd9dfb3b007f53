import ElixirLexer.Lexer.Session
import ElixirLexer.Stream.Basic

/-!
# Sessions of stream commands

A client of a token stream, as a list of commands.  A command that ends in a fault answers with it,
and the session goes on with what the fault left.
-/

namespace ElixirLexer

namespace Stream

/-- What a client can ask for. -/
inductive Command
  | peek
  /-- The next token, or the end mark. -/
  | next
  /-- The next token, unless it is the end mark. -/
  | advance
  | take (count : Nat)
  | drain
  | eat (kind : Kind)
  | skipTrivia
  | isAtEnd
  | checkpoint
  /-- Goes to the checkpoint with the given number. -/
  | rewind (id : Nat)
  /-- Opens a new stream and keeps the checkpoints. -/
  | start (text : List Char) (opening : Opening)
  | diagnostics
  | lexer

/-- What a client gets. -/
inductive Answer
  | done
  | token (token : Token)
  | noToken
  | tokens (tokens : List Token)
  | flag (value : Bool)
  | checkpoint (id : Nat) (checkpoint : Checkpoint)
  | diagnostics (diagnostics : List Diagnostic)
  | lexer (lexer : Lexer)
  | fault (fault : Fault)
  /-- The command names a checkpoint that was never taken. -/
  | noSuchCheckpoint

/-- A stream and the checkpoints taken so far, oldest first. -/
structure Session where
  stream : Stream
  checkpoints : List Checkpoint := []

namespace Session

/-- The answer to a reading, and the session behind it. -/
def ofReading {α : Type} (session : Session) (answer : α → Answer) :
    Except Fault (α × Stream) → Answer × Session
  | .error fault => (.fault fault, session)
  | .ok (value, stream) => (answer value, { session with stream })

/-- The answer for a token that may be missing. -/
def optional : Option Token → Answer
  | none => .noToken
  | some token => .token token

/-- Carries out one command. -/
def perform (session : Session) : Command → Answer × Session
  | .peek => session.ofReading .token session.stream.peek
  | .next => session.ofReading .token session.stream.next
  | .advance =>
      session.ofReading (fun tokens => optional tokens.head?) (session.stream.take 1)
  | .take count => session.ofReading .tokens (session.stream.take count)
  | .drain => session.ofReading .tokens session.stream.drain
  | .eat kind => session.ofReading optional (session.stream.eat kind)
  | .skipTrivia =>
      session.ofReading (fun _ => .done) (session.stream.skipTrivia.map fun stream => ((), stream))
  | .isAtEnd => session.ofReading .flag session.stream.isAtEnd
  | .checkpoint =>
      let taken := session.stream.checkpoint
      (.checkpoint session.checkpoints.length taken,
        { session with checkpoints := session.checkpoints ++ [taken] })
  | .rewind id =>
      match session.checkpoints[id]? with
      | none => (.noSuchCheckpoint, session)
      | some target =>
          match session.stream.rewind target with
          | (.ok (), stream) => (.done, { session with stream })
          | (.error fault, stream) => (.fault fault, { session with stream })
  | .start text opening =>
      match opening.lexer text with
      | .error fault => (.fault fault, session)
      | .ok lexer => (.done, { session with stream := { lexer } })
  | .diagnostics => (.diagnostics session.stream.diagnostics, session)
  | .lexer => (.lexer session.stream.lexer, session)

/-- Carries out several commands.  Each answer comes with the session that the command left. -/
def performAll (session : Session) : List Command → List (Answer × Session)
  | [] => []
  | command :: later =>
      session.perform command :: (session.perform command).2.performAll later

end Session

end Stream

end ElixirLexer
