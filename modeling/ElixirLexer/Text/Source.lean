import ElixirLexer.Overflow
import ElixirLexer.Token.Span

/-!
# Source text with its lines

A source is a text together with the table of the offsets at which its lines start.  The table is
tied to the text by the type, so looking a position up never sees a stale table.  An offset past
the end belongs to the last line, and of a text without line breaks the last offset that there is
would be in a column that no counter holds.
-/

namespace ElixirLexer

/-- The offsets just behind the line breaks of a text that starts at `offset`.  A carriage return
that a newline follows is not a break of its own. -/
def breakEnds (offset : Nat) : List Char → List Nat
  | [] => []
  | c :: rest =>
      if c = '\n' ∨ (c = '\r' ∧ rest.head? ≠ some '\n') then
        (offset + 1) :: breakEnds (offset + 1) rest
      else
        breakEnds (offset + 1) rest

/-- The offsets at which lines start; the first line starts at zero. -/
def lineTable (chars : List Char) : Array Nat :=
  (0 :: breakEnds 0 chars).toArray

/-- Where a sorted table holds a key, or where the key would have to be inserted. -/
inductive Slot
  | found (index : Nat)
  | gap (index : Nat)
  deriving DecidableEq

/-- Binary search among the entries from `low` up to, not including, `high`. -/
def findSlot (table : Array Nat) (key low high : Nat) : Slot :=
  if low < high then
    let middle := low + (high - low) / 2
    match table[middle]? with
    | none => .gap low
    | some entry =>
        if entry = key then .found middle
        else if entry < key then findSlot table key (middle + 1) high
        else findSlot table key low middle
  else
    .gap low
termination_by high - low

/-- A text and the offsets at which its lines start. -/
structure Source where
  chars : List Char
  lineStarts : Array Nat := lineTable chars
  lineStarts_eq : lineStarts = lineTable chars := by rfl

/-- One-based line and column. -/
structure Position where
  line : Nat
  column : Nat
  deriving DecidableEq

namespace Source

/-- The source of a text. -/
def ofList (chars : List Char) : Source :=
  { chars }

/-- Number of characters. -/
def length (source : Source) : Nat :=
  source.chars.length

/-- Whether there is no text. -/
def isEmpty (source : Source) : Bool :=
  source.chars.isEmpty

/-- The text under a span, cut off at the end of the source. -/
def slice (source : Source) (span : Span) : List Char :=
  (source.chars.drop span.start).take span.length

/-- The zero-based line an offset is on: the line that starts there, or else the last line that
starts before it. -/
def lineIndex (source : Source) (offset : Nat) : Nat :=
  match findSlot source.lineStarts offset 0 source.lineStarts.size with
  | .found index => index
  | .gap index => index - 1

/-- Line and column of an offset. -/
def position (source : Source) (offset : Nat) : Position :=
  let line := source.lineIndex offset
  ⟨line + 1, offset - source.lineStarts.getD line 0 + 1⟩

end Source

/-- Line and column of an offset, as in `Source.position`, where columns have a fixed width.  Lines
are counted by the entries of a table and need no limit. -/
def Overflow.position (overflow : Overflow) (source : Source) (offset : Nat) :
    Except Fault Position := do
  let line := source.lineIndex offset
  let column ← overflow.next offsetLimit (offset - source.lineStarts.getD line 0)
  return ⟨line + 1, column⟩

end ElixirLexer
