import ElixirLexer.Rule.Literal

/-!
# Heredocs

The line that opens a heredoc is read to its end, and there the text is searched for the line that
will close it: the indentation of that line is taken off every body line.  The search counts braces
inside interpolations and does not know about the literals in them.
-/

namespace ElixirLexer

/-- Width of the spaces and tabs at the head of the text. -/
def indentWidth (line : List Char) : Nat :=
  (line.takeWhile isIndent).length

/-- Width of the indentation of a line that closes a heredoc: three quotes stand behind it, and
anything may follow them. -/
def terminatorIndent? (quote : Char) (line : List Char) : Option Nat :=
  if beginsWithMarker quote (line.dropWhile isIndent) then some (indentWidth line) else none

/-- Indentation of the line that closes a heredoc, or zero if no line does.  `depth` counts the
braces open in an interpolation, and lines that start inside one are passed over.  `lineStart` says
whether the text ahead starts a line.  Outside interpolations a backslash takes the next character
of its line with it. -/
def closingIndent (quote : Char) (interpolating : Bool) (depth : Nat) (lineStart : Bool) :
    List Char → Nat
  | [] => 0
  | c :: rest =>
      match if lineStart && depth == 0 then terminatorIndent? quote (c :: rest) else none with
      | some width => width
      | none =>
          if isLineBreak c then
            match rest with
            | [] => 0
            | d :: behind =>
                -- A carriage return and its newline are one break.
                if c = '\r' ∧ d = '\n' then closingIndent quote interpolating depth true behind
                else closingIndent quote interpolating depth true (d :: behind)
          else if depth = 0 then
            if c = '\\' then
              match rest with
              | [] => 0
              | d :: behind =>
                  if isLineBreak d then closingIndent quote interpolating 0 false (d :: behind)
                  else closingIndent quote interpolating 0 false behind
            else if interpolating ∧ c = '#' then
              match rest with
              | [] => 0
              | d :: behind =>
                  if d = '{' then closingIndent quote interpolating 1 false behind
                  else closingIndent quote interpolating 0 false (d :: behind)
            else closingIndent quote interpolating 0 false rest
          else if c = '{' then closingIndent quote interpolating (depth + 1) false rest
          else if c = '}' then closingIndent quote interpolating (depth - 1) false rest
          else closingIndent quote interpolating depth false rest

/-- Without a closing line there is no indentation. -/
theorem closingIndent_nil {quote : Char} {interpolating lineStart : Bool} {depth : Nat} :
    closingIndent quote interpolating depth lineStart [] = 0 := by
  simp [closingIndent]

/-- How far the text of a body line reaches: up to the line break, to an interpolation if there can
be one, or to the end.  A backslash takes the next character of the line with it. -/
def lineReach (interpolating : Bool) : List Char → Nat
  | [] => 0
  | c :: rest =>
      if isLineBreak c then 0
      else if c = '\\' then
        match rest with
        | [] => 1
        | d :: behind => if isLineBreak d then 1 else lineReach interpolating behind + 2
      else if interpolating ∧ c = '#' ∧ rest.head? = some '{' then 0
      else lineReach interpolating rest + 1

/-- The text of a body line stays within the text ahead. -/
theorem lineReach_le_length (interpolating : Bool) (text : List Char) :
    lineReach interpolating text ≤ text.length := by
  fun_induction lineReach interpolating text <;> simp_all

namespace Scan

/-- What follows the opening marker on its line. -/
def heredocTrailing (scan : Scan) : Option Match :=
  Match.nonempty .heredocTrailing (scan.rest.takeWhile fun c => !isLineBreak c).length

/-- The line break behind the opening marker. -/
def heredocOpeningEol (scan : Scan) : Option Match :=
  match scan.mode with
  | .heredocOpen heredoc =>
      let length := lineBreakLength scan.rest
      if length = 0 then none
      else
        let indent :=
          closingIndent heredoc.quote heredoc.interpolating 0 true (scan.rest.drop length)
        some (Match.moving .eol length (.replace (.heredocBody { heredoc with indent })))
  | _ => none

/-- The closing marker with the indentation of its line. -/
def heredocTerminator (scan : Scan) : Option Match :=
  match scan.mode with
  | .heredocBody heredoc =>
      if scan.cursor.atLineStart then
        match terminatorIndent? heredoc.quote scan.rest with
        | none => none
        | some width =>
            some ⟨.heredocTerminator, width + 3, width + 3, width,
              closing heredoc.literal (scan.rest.drop (width + 3))⟩
      else
        none
  | _ => none

/-- Text of a body line that does not close the heredoc.  Only where the text starts its line is
indentation taken off, and never more than the closing line has. -/
def heredocLine (scan : Scan) : Option Match :=
  match scan.mode with
  | .heredocBody heredoc =>
      let length := lineReach heredoc.interpolating scan.rest
      if scan.cursor.atLineStart && (terminatorIndent? heredoc.quote scan.rest).isSome then none
      else if length = 0 then none
      else
        let indent :=
          if scan.cursor.atLineStart then
            indentWidth (scan.rest.take (min length heredoc.indent))
          else 0
        some ⟨.heredocLine, length, length, indent, .stay⟩
  | _ => none

end Scan

end ElixirLexer
