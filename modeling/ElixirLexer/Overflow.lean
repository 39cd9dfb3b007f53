import ElixirLexer.Fault

/-!
# Counters that are full

Counters have a fixed width.  What becomes of a count that a counter cannot hold is a choice made
when a program is built: the counter starts over, or the program stops.  An `Overflow` is this
choice, and whatever counts takes it as a parameter.
-/

namespace ElixirLexer

/-- What becomes of a counter that stands at its largest value and is to count on. -/
inductive Overflow
  /-- It starts over at zero. -/
  | wraps
  /-- Counting on is a fault. -/
  | faults
  deriving DecidableEq

/-- The number of values that a counter of nested delimiters or braces has; it is 32 bits wide. -/
def depthLimit : Nat := 4294967296

/-- The number of values that an offset or a column has; it is 64 bits wide. -/
def offsetLimit : Nat := 18446744073709551616

namespace Overflow

/-- The count behind `count`, of a counter with `limit` values. -/
def next (overflow : Overflow) (limit count : Nat) : Except Fault Nat :=
  if count + 1 < limit then .ok (count + 1)
  else
    match overflow with
    | wraps => .ok 0
    | faults => .error .overflow

variable {limit count : Nat}

theorem next_of_lt (overflow : Overflow) (h : count + 1 < limit) :
    overflow.next limit count = .ok (count + 1) :=
  if_pos h

theorem next_wraps_of_le (h : limit ≤ count + 1) : wraps.next limit count = .ok 0 :=
  if_neg (Nat.not_lt.mpr h)

theorem next_faults_of_le (h : limit ≤ count + 1) : faults.next limit count = .error .overflow :=
  if_neg (Nat.not_lt.mpr h)

/-- A counter that starts over always has a next count. -/
theorem exists_next_wraps (limit count : Nat) : ∃ next, wraps.next limit count = .ok next := by
  by_cases h : count + 1 < limit
  · exact ⟨_, next_of_lt wraps h⟩
  · exact ⟨0, next_wraps_of_le (Nat.not_lt.mp h)⟩

end Overflow

end ElixirLexer
