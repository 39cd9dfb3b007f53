import ElixirLexer.Unicode.Ranges

/-!
# White space

The property White_Space of Unicode 17.0.
The table lists its 10 maximal ranges.
-/

namespace ElixirLexer.Unicode

/-- The ranges of the property, lowest first. -/
def whiteSpace : Ranges := [
    (0x9, 0xD), (0x20, 0x20), (0x85, 0x85), (0xA0, 0xA0), (0x1680, 0x1680), (0x2000, 0x200A),
    (0x2028, 0x2029), (0x202F, 0x202F), (0x205F, 0x205F), (0x3000, 0x3000)]

/-- Whether `c` is white space. -/
def isWhiteSpace (c : Char) : Bool :=
  whiteSpace.covers c.toNat

end ElixirLexer.Unicode
