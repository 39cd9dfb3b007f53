import ElixirLexer.Rule.Basic
import ElixirLexer.Text.CharClass

/-!
# White space, line breaks and comments
-/

namespace ElixirLexer

/-- Whether the text ahead begins with a byte-order mark that counts as white space: only at the
very start of a text, and only if the options accept it. -/
def Scan.hasByteOrderMark (scan : Scan) : Bool :=
  scan.options.acceptByteOrderMark && scan.cursor.offset == 0
    && scan.rest.head? == some byteOrderMark

namespace Scan

/-- Blanks, after an accepted byte-order mark or on their own. -/
def whitespace (scan : Scan) : Option Match :=
  let mark := if scan.hasByteOrderMark then 1 else 0
  Match.nonempty .whitespace (mark + ((scan.rest.drop mark).takeWhile isBlank).length)

/-- One line break. -/
def eol (scan : Scan) : Option Match :=
  Match.nonempty .eol (lineBreakLength scan.rest)

/-- From `#` up to the line break. -/
def comment (scan : Scan) : Option Match :=
  match scan.rest with
  | [] => none
  | c :: rest =>
      if c = '#' then
        some (Match.plain .comment (1 + (rest.takeWhile fun d => !isLineBreak d).length))
      else
        none

end Scan

end ElixirLexer
