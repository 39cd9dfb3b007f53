import ElixirLexer.Unicode.GraphemeExtend
import ElixirLexer.Unicode.Unprintable

/-!
# Escaped text

How characters are written in messages, token dumps and logs.  Five characters and the two quotes
have a short escape, characters that do not show up on their own are written by number as `\u{…}`,
and all others stand for themselves.  The three places differ only in which quotes they escape.
-/

namespace ElixirLexer.Quoted

/-- The quotes that are escaped. -/
structure Style where
  apostrophe : Bool
  doubleQuote : Bool

/-- Inside a message a character may be either quote, and both are escaped. -/
def Style.message : Style := ⟨true, true⟩

/-- Between double quotes an apostrophe needs no escape. -/
def Style.text : Style := ⟨false, true⟩

/-- Between apostrophes a double quote needs no escape. -/
def Style.character : Style := ⟨true, false⟩

/-- The halfwidth voiced and semi-voiced sound marks.  They extend graphemes like combining marks do,
but they are letters with a width of their own, the only ones among the grapheme extenders. -/
def isHalfwidthSoundMark (c : Char) : Bool :=
  c == '\uFF9E' || c == '\uFF9F'

/-- Whether a character is written by its number: what has no form of its own, and what would merge
with the character in front of it. -/
def isHidden (c : Char) : Bool :=
  Unicode.isUnprintable c || (Unicode.isGraphemeExtend c && !isHalfwidthSoundMark c)

/-- The escape by number: lower-case hexadecimal digits without leading zeros. -/
def numbered (c : Char) : List Char :=
  ['\\', 'u', '{'] ++ Nat.toDigits 16 c.toNat ++ ['}']

/-- The written form of one character. -/
def encodeChar (style : Style) (c : Char) : List Char :=
  if c = '\x00' then ['\\', '0']
  else if c = '\t' then ['\\', 't']
  else if c = '\r' then ['\\', 'r']
  else if c = '\n' then ['\\', 'n']
  else if c = '\\' then ['\\', '\\']
  else if c = '\'' then if style.apostrophe then ['\\', '\''] else [c]
  else if c = '"' then if style.doubleQuote then ['\\', '"'] else [c]
  else if isHidden c then numbered c
  else [c]

/-- The written form of a text, character by character. -/
def encode (style : Style) (text : List Char) : List Char :=
  text.flatMap (encodeChar style)

/-- A text between double quotes. -/
def text (chars : List Char) : List Char :=
  '"' :: encode .text chars ++ ['"']

/-- A character between apostrophes. -/
def character (c : Char) : List Char :=
  '\'' :: encodeChar .character c ++ ['\'']

theorem encode_nil (style : Style) : encode style [] = [] := rfl

theorem encode_cons (style : Style) (c : Char) (rest : List Char) :
    encode style (c :: rest) = encodeChar style c ++ encode style rest := by
  simp [encode]

theorem encode_append (style : Style) (front back : List Char) :
    encode style (front ++ back) = encode style front ++ encode style back := by
  simp [encode]

end ElixirLexer.Quoted
