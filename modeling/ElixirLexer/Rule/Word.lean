import ElixirLexer.Rule.Basic
import ElixirLexer.Text.CharClass

/-!
# Words

Identifiers, reserved words, capitalised names and atoms.  All but the capitalised names may end in
one `?` or `!`.
-/

namespace ElixirLexer

/-- The reserved words. -/
def reservedWords : List (List Char) :=
  ["after", "and", "catch", "do", "else", "end", "false", "fn", "in", "nil", "not", "or",
    "rescue", "true", "when"].map String.toList

/-- A character that may end a word without being part of a name. -/
def isWordMark (c : Char) : Bool :=
  c == '?' || c == '!'

/-- Length of the rest of a name. -/
def nameRestLength (text : List Char) : Nat :=
  (text.takeWhile isIdentifierRest).length

/-- Length of the rest of a word: the rest of a name and at most one mark. -/
def wordRestLength (text : List Char) : Nat :=
  nameRestLength text
    + if (text.dropWhile isIdentifierRest).head?.any isWordMark then 1 else 0

/-- Length of the word at the head of the text. -/
def wordLength? : List Char → Option Nat
  | [] => none
  | c :: rest => if isIdentifierStart c then some (1 + wordRestLength rest) else none

namespace Scan

/-- Any word. -/
def identifier (scan : Scan) : Option Match :=
  (wordLength? scan.rest).map (Match.plain .identifier)

/-- A word that is reserved as a whole. -/
def keyword (scan : Scan) : Option Match :=
  match wordLength? scan.rest with
  | none => none
  | some length =>
      if reservedWords.contains (scan.rest.take length) then some (Match.plain .keyword length)
      else none

/-- A capitalised name. -/
def aliasName (scan : Scan) : Option Match :=
  match scan.rest with
  | [] => none
  | c :: rest =>
      if Unicode.isUppercase c then some (Match.plain .aliasName (1 + nameRestLength rest))
      else none

/-- A colon and a word, which may be capitalised. -/
def atom (scan : Scan) : Option Match :=
  match scan.rest with
  | colon :: c :: rest =>
      if colon = ':' ∧ (isIdentifierStart c || Unicode.isUppercase c) then
        some (Match.plain .atom (2 + wordRestLength rest))
      else
        none
  | _ => none

end Scan

end ElixirLexer
