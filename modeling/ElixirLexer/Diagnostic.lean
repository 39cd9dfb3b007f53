import ElixirLexer.Stack
import ElixirLexer.Text.Quoted

/-!
# Diagnostics

What is wrong with a text.  A bad character is noticed where it stands; a construct without its end
is noticed at the end of the text and is reported at its beginning.
-/

namespace ElixirLexer

/-- What can be wrong with a text. -/
inductive Problem
  | unterminatedSigil
  | unterminatedHeredoc
  | unterminatedString
  | unterminatedCharList
  | unterminatedInterpolation
  /-- A character that begins no token. -/
  | badCharacter (c : Char)
  deriving DecidableEq

namespace Problem

/-- The problem of a construct that is still open at the end of the text.  Plain code needs no end,
and neither do the modifiers of a sigil. -/
def ofOpen? : Mode → Option Problem
  | .initial | .sigilModifiers => none
  | .sigilName | .sigilDelimiter _ => some unterminatedSigil
  | .group group =>
      match group.literal with
      | .sigil => some unterminatedSigil
      | .string => some unterminatedString
      | .charList => some unterminatedCharList
  | .heredocOpen _ | .heredocBody _ => some unterminatedHeredoc
  | .interpolation _ => some unterminatedInterpolation

/-- Whether something lacks its end. -/
def isUnterminated : Problem → Bool
  | badCharacter _ => false
  | _ => true

/-- The name of a problem. -/
def name : Problem → String
  | unterminatedSigil => "UnterminatedSigil"
  | unterminatedHeredoc => "UnterminatedHeredoc"
  | unterminatedString => "UnterminatedString"
  | unterminatedCharList => "UnterminatedCharList"
  | unterminatedInterpolation => "UnterminatedInterpolation"
  | badCharacter _ => "BadCharacter"

/-- The report of a problem, without its place. -/
def message : Problem → String
  | unterminatedSigil => "unterminated sigil"
  | unterminatedHeredoc => "unterminated heredoc"
  | unterminatedString => "unterminated string"
  | unterminatedCharList => "unterminated charlist"
  | unterminatedInterpolation => "unterminated interpolation, expected '\x7d'"
  | badCharacter c =>
      "unexpected character: " ++ String.ofList (Quoted.encodeChar .message c)

end Problem

/-- A problem and its place. -/
structure Diagnostic where
  problem : Problem
  /-- Where the problem is noticed. -/
  offset : Nat
  /-- Where the construct begins. -/
  origin : Nat
  deriving DecidableEq

namespace Diagnostic

/-- The report of a bad character at `offset`. -/
def badCharacter (c : Char) (offset : Nat) : Diagnostic :=
  ⟨.badCharacter c, offset, offset⟩

/-- The report of a frame that is still open when the text ends at `offset`. -/
def unterminated? (frame : Frame) (offset : Nat) : Option Diagnostic :=
  (Problem.ofOpen? frame.mode).map fun problem => ⟨problem, offset, frame.openedAt⟩

/-- The report of a problem with its place. -/
def message (diagnostic : Diagnostic) : String :=
  s!"{diagnostic.problem.message} at offset {diagnostic.origin}"

end Diagnostic

end ElixirLexer
