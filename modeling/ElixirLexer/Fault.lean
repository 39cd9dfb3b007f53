/-!
# Faults

A fault is a broken promise of the caller: a position beyond the text, a stack without its
initial frame in its place, or a count that its counter cannot hold.  Malformed source text is no
fault; it leads to diagnostics.
-/

namespace ElixirLexer

/-- What a caller can do wrong. -/
inductive Fault
  /-- A cursor was asked for beyond the end of its text. -/
  | pastEnd (offset length : Nat)
  /-- A cursor was to move over more characters than remain. -/
  | overrun (count offset length : Nat)
  /-- The frames do not begin with an initial frame. -/
  | missingInitial
  /-- A second initial frame lies above the first. -/
  | buriedInitial
  /-- The initial frame was to be popped. -/
  | popInitial
  /-- The initial frame was to change its mode. -/
  | replaceInitial
  /-- A counter stood at its largest value and was to count on. -/
  | overflow
  deriving DecidableEq

/-- The report of a fault. -/
def Fault.message : Fault → String
  | .pastEnd offset length => s!"cursor offset {offset} is past end of input ({length})"
  | .overrun count offset length =>
      s!"advance({count}) at offset {offset} overruns input of length {length}"
  | .missingInitial => "state stack must start with the initial frame"
  | .buriedInitial => "initial frame may only appear at the bottom of the stack"
  | .popInitial => "attempted to pop the initial frame"
  | .replaceInitial => "attempted to replace the initial frame"
  | .overflow => "attempt to add with overflow"

end ElixirLexer
