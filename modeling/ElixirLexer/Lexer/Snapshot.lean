import ElixirLexer.Stack

/-!
# Snapshots

An offset and the frames in effect there are all that is needed to go on lexing from that place,
except for what has been reported already.  A snapshot is plain data and may be carried from one
text to another.
-/

namespace ElixirLexer

/-- A place in a session. -/
structure Snapshot where
  offset : Nat
  /-- From the bottom to the top. -/
  frames : List Frame
  deriving DecidableEq

/-- The stack of a snapshot. -/
def Snapshot.stack (snapshot : Snapshot) : Except Fault Stack :=
  Stack.ofFrames snapshot.frames

end ElixirLexer
