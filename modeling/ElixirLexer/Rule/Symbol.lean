import ElixirLexer.Rule.Basic
import ElixirLexer.Text.CharClass

/-!
# Operators, punctuation and character literals
-/

namespace ElixirLexer

/-- The operators. -/
def operators : List (List Char) :=
  ["===", "!==", "...", "<<<", ">>>", "<<~", "~>>", "<~>", "<|>", "|||", "&&&", "^^^", "~~~",
    "\\\\", "==", "!=", "<=", ">=", "&&", "||", "|>", "<<", ">>", "~>", "<~", "<-", "->", "=~",
    "++", "--", "<>", "..", "::", "**", "=>", "+", "-", "*", "/", "=", "<", ">", "!", "^", "&",
    "|", ".", "@", ":", "%"].map String.toList

/-- Length of the longest operator at the head of the text. -/
def operatorLength? (text : List Char) : Option Nat :=
  ((operators.filter fun operator => operator.isPrefixOf text).map List.length).max?

/-- The punctuation marks. -/
def punctuationKinds : List (Char × Kind) :=
  [(';', .semicolon), (',', .comma), ('(', .openParen), (')', .closeParen),
    ('[', .openBracket), (']', .closeBracket), ('{', .openBrace), ('}', .closeBrace)]

/-- Length of the character literal at the head of the text: `?` and one character, which may be
escaped.  A line break can only be escaped. -/
def charTokenLength? : List Char → Option Nat
  | mark :: c :: rest =>
      if mark ≠ '?' then none
      else if c = '\\' then if rest.isEmpty then none else some 3
      else if isLineBreak c then none
      else some 2
  | _ => none

namespace Scan

/-- The longest operator. -/
def operator (scan : Scan) : Option Match :=
  (operatorLength? scan.rest).map (Match.plain .operator)

/-- One punctuation mark. -/
def punctuation (scan : Scan) : Option Match :=
  match scan.rest with
  | [] => none
  | c :: _ => (punctuationKinds.lookup c).map fun kind => Match.plain kind 1

/-- A character literal. -/
def charToken (scan : Scan) : Option Match :=
  (charTokenLength? scan.rest).map (Match.plain .charToken)

end Scan

end ElixirLexer
