import ElixirLexer.Rule.Literal

/-!
# Interpolations

Where code begins inside a literal, and the brace that ends it.  Braces of the code itself are
counted in the mode.
-/

namespace ElixirLexer

/-- Whether the text of this mode can hold interpolations. -/
def Mode.isInterpolating : Mode → Bool
  | .group body => body.interpolating
  | .heredocBody heredoc => heredoc.interpolating
  | _ => false

namespace Scan

/-- The `#` and brace in front of interpolated code. -/
def interpolationStart (scan : Scan) : Option Match :=
  if scan.mode.isInterpolating ∧ beginsWithInterpolation scan.rest then
    some (Match.moving .interpolationStart 2 (.push (.interpolation 0)))
  else
    none

/-- A brace inside interpolated code: it is counted, or it ends the interpolation. -/
def interpolationBrace (scan : Scan) : Option Match :=
  match scan.mode, scan.rest with
  | .interpolation depth, c :: _ =>
      if c = '{' then
        some (Match.moving .openBrace 1 (.replace (.interpolation (depth + 1))))
      else if c = '}' then
        if depth = 0 then some (Match.moving .interpolationEnd 1 .pop)
        else some (Match.moving .closeBrace 1 (.replace (.interpolation (depth - 1))))
      else
        none
  | _, _ => none

end Scan

end ElixirLexer
