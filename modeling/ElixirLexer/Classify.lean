import ElixirLexer.Rule.Table

/-!
# Classification

Of all rules of the current mode the one that reaches furthest wins, and the earliest of those that
reach equally far.  Where no rule matches, a mode around a sigil gives way, and any other mode
takes one bad character.
-/

namespace ElixirLexer

/-- The better of the best match so far and a later one, which must reach further to win. -/
def Match.better (best : Option Match) (later : Match) : Option Match :=
  match best with
  | none => some later
  | some earlier => if later.extent ≤ earlier.extent then some earlier else some later

/-- The longest of the answers, and the earliest of those that reach equally far. -/
def longest {ρ : Type} (answer : ρ → Option Match) (rules : List ρ) : Option Match :=
  (rules.filterMap answer).foldl Match.better none

/-- What is to be done at a place in the text. -/
inductive Outcome
  /-- Consume a match and make a token of it. -/
  | emit (found : Match)
  /-- Leave the mode without consuming anything. -/
  | giveWay
  deriving DecidableEq

/-- What a mode makes of the text at a cursor. -/
def classify (cursor : Cursor) (mode : Mode) (options : Options) : Outcome :=
  match longest (fun rule => Rule.answer rule ⟨cursor, mode, options⟩) (Rule.table mode.id) with
  | some found => .emit found
  | none =>
      if mode.isTransient then .giveWay
      else .emit (Match.plain .badCharacter 1)

end ElixirLexer
