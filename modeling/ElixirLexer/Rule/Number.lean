import ElixirLexer.Rule.Basic
import ElixirLexer.Text.CharClass

/-!
# Numbers

Integers in four bases and decimal fractions with an optional exponent.  Underscores may stand
wherever a digit may, except in front of the number, of the fraction and of the exponent.  A base
letter without digits, a point without a fraction and an `e` without an exponent do not belong to
the number.
-/

namespace ElixirLexer

namespace Number

/-- Whether the text begins with an ASCII digit. -/
def beginsWithDigit (text : List Char) : Bool :=
  text.head?.any Char.isDigit

/-- Length of the run of decimal digits and underscores at the head of the text. -/
def digitsLength (text : List Char) : Nat :=
  (text.takeWhile isDecimalDigit).length

/-- The digits of the base that a letter behind the leading zero stands for. -/
def baseDigit? (letter : Char) : Option (Char → Bool) :=
  if letter = 'x' then some isHexDigit
  else if letter = 'o' then some isOctalDigit
  else if letter = 'b' then some isBinaryDigit
  else none

/-- Length of a number with a base letter, which needs at least one digit. -/
def basedLength? : List Char → Option Nat
  | zero :: letter :: rest =>
      if zero = '0' then
        match baseDigit? letter with
        | none => none
        | some isDigit =>
            if rest.head?.any isDigit then some (2 + (rest.takeWhile isDigit).length) else none
      else
        none
  | _ => none

/-- Length of the sign in front of an exponent. -/
def signLength (text : List Char) : Nat :=
  if text.head?.any (fun c => c == '+' || c == '-') then 1 else 0

/-- Length of an exponent with its letter, or zero. -/
def exponentLength : List Char → Nat
  | [] => 0
  | letter :: rest =>
      let digits := rest.drop (signLength rest)
      if (letter = 'e' ∨ letter = 'E') ∧ beginsWithDigit digits then
        1 + signLength rest + digitsLength digits
      else
        0

/-- Length of a fraction with its point and exponent, or zero. -/
def fractionLength : List Char → Nat
  | [] => 0
  | point :: rest =>
      if point = '.' ∧ beginsWithDigit rest then
        1 + digitsLength rest + exponentLength (rest.drop (digitsLength rest))
      else
        0

/-- Length of a decimal number that begins with a digit. -/
def decimalLength (text : List Char) : Nat :=
  digitsLength text + fractionLength (text.drop (digitsLength text))

/-- Length of the number at the head of the text. -/
def length? (text : List Char) : Option Nat :=
  if beginsWithDigit text then
    some ((basedLength? text).getD (decimalLength text))
  else
    none

end Number

/-- A number. -/
def Scan.number (scan : Scan) : Option Match :=
  (Number.length? scan.rest).map (Match.plain .number)

end ElixirLexer
