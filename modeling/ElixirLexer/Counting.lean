import ElixirLexer.Classify
import ElixirLexer.Overflow

/-!
# Classification with counters of a fixed width

Two rules count: the body of a group counts its openers, and interpolated code its opening braces.
A session that begins in plain code counts without a limit, as none of its counters comes to be
larger than the number of characters read.  A mode that is made by hand may come with a full
counter; then the choice of an `Overflow` comes into the answers of these two rules, and into what
is selected.
-/

namespace ElixirLexer

/-- The outcome of what is selected in a mode. -/
def Mode.settle (mode : Mode) : Option Match → Outcome
  | some found => .emit found
  | none => if mode.isTransient then .giveWay else .emit (Match.plain .badCharacter 1)

namespace Overflow

/-- How far the body of a group reaches from a given depth of nesting, as in `bodyReach`. -/
def reach (overflow : Overflow) (group : Group) (depth : Nat) : List Char → Except Fault Reach
  | [] => .ok ⟨0, depth⟩
  | c :: rest =>
      if c = '\\' then
        match rest with
        | [] => .ok ⟨1, depth⟩
        | _ :: behind => (overflow.reach group depth behind).map (Reach.after 2)
      else if group.interpolating ∧ c = '#' ∧ rest.head? = some '{' then .ok ⟨0, depth⟩
      else if c = group.closer then
        if depth = 0 then .ok ⟨0, depth⟩
        else (overflow.reach group (depth - 1) rest).map (Reach.after 1)
      else if group.nests ∧ c = group.opener then do
        let deeper ← overflow.next depthLimit depth
        (overflow.reach group deeper rest).map (Reach.after 1)
      else (overflow.reach group depth rest).map (Reach.after 1)

/-- Text of a body, as in `Scan.groupBody`. -/
def body (overflow : Overflow) (scan : Scan) : Except Fault (Option Match) :=
  match scan.mode with
  | .group group => do
      let reach ← overflow.reach group group.depth scan.rest
      if reach.length = 0 then return none
      else if reach.depth = group.depth then
        return some (Match.plain group.literal.bodyKind reach.length)
      else
        return some (Match.moving group.literal.bodyKind reach.length
          (.replace (.group { group with depth := reach.depth })))
  | _ => return none

/-- A brace inside interpolated code, as in `Scan.interpolationBrace`. -/
def brace (overflow : Overflow) (scan : Scan) : Except Fault (Option Match) :=
  match scan.mode with
  | .interpolation depth =>
      if scan.rest.head? = some '{' then do
        let deeper ← overflow.next depthLimit depth
        return some (Match.moving .openBrace 1 (.replace (.interpolation deeper)))
      else
        return scan.interpolationBrace
  | _ => return none

/-- What a rule answers to a scan.  Only two rules count. -/
def answer (overflow : Overflow) (scan : Scan) : Rule → Except Fault (Option Match)
  | .groupBody => overflow.body scan
  | .interpolationBrace => overflow.brace scan
  | rule => .ok (rule.answer scan)

/-- The longest of the answers to a scan; every rule is asked. -/
def select (overflow : Overflow) (scan : Scan) (rules : List Rule) :
    Except Fault (Option Match) := do
  let answers ← rules.mapM (overflow.answer scan)
  return longest id answers

/-- What a mode makes of the text at a cursor, as in `classify`. -/
def outcome (overflow : Overflow) (cursor : Cursor) (mode : Mode) (options : Options) :
    Except Fault Outcome :=
  (overflow.select ⟨cursor, mode, options⟩ (Rule.table mode.id)).map mode.settle

end Overflow

end ElixirLexer
