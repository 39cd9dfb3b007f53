import ElixirLexer.Cursor
import ElixirLexer.Options
import ElixirLexer.Stack

/-!
# Matches and scans

A rule looks at a scan and either declines or answers with a match.  It consumes nothing: the match
says how many characters to consume and what becomes of the stack of modes.
-/

namespace ElixirLexer

/-- The answer of a rule. -/
structure Match where
  kind : Kind
  /-- Number of characters to consume. -/
  length : Nat
  /-- Number of characters the decision rests on.  Rules compete by it, and it is longer than
  `length` where a rule insists on what follows its token. -/
  extent : Nat
  /-- Number of leading characters that are not part of the value of the token. -/
  indent : Nat
  transition : Transition
  deriving DecidableEq

namespace Match

/-- A match that rests on what it consumes and leaves the stack alone. -/
def plain (kind : Kind) (length : Nat) : Match :=
  ⟨kind, length, length, 0, .stay⟩

/-- A match that rests on what it consumes and changes the stack. -/
def moving (kind : Kind) (length : Nat) (transition : Transition) : Match :=
  ⟨kind, length, length, 0, transition⟩

/-- A match of some characters, or none if there are none. -/
def nonempty (kind : Kind) (length : Nat) : Option Match :=
  if length = 0 then none else some (plain kind length)

end Match

/-- What a rule sees. -/
structure Scan where
  cursor : Cursor
  mode : Mode
  options : Options

namespace Scan

/-- The text ahead. -/
def rest (scan : Scan) : List Char :=
  scan.cursor.rest

end Scan

end ElixirLexer
