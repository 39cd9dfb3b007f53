import ElixirLexer.Rule.Basic
import ElixirLexer.Text.CharClass

/-!
# Literals between single delimiters

Where strings, character lists and sigils begin, what their bodies reach over and where they end.
A sigil is taken apart into `~`, its letter, its delimiter, its body and, behind the closing
delimiter, its modifiers; the `~` is read only where a letter and a delimiter follow.
-/

namespace ElixirLexer

/-- Whether three quotes stand at the head of the text. -/
def beginsWithMarker (quote : Char) (text : List Char) : Bool :=
  [quote, quote, quote].isPrefixOf text

/-- Whether an interpolation begins at the head of the text. -/
def beginsWithInterpolation (text : List Char) : Bool :=
  ['#', '{'].isPrefixOf text

/-- What becomes of a literal whose closing delimiter has been read, seen from the text behind it:
a sigil waits for its modifiers if a letter follows. -/
def closing (literal : Literal) (behind : List Char) : Transition :=
  if literal = .sigil ∧ behind.head?.any Char.isAlpha then .replace .sigilModifiers else .pop

/-- The literal that a quotation mark begins. -/
def quotedLiteral? (quote : Char) : Option Literal :=
  if quote = '"' then some .string
  else if quote = '\'' then some .charList
  else none

/-- How far a body reaches, and how deeply delimiters are nested where it ends. -/
structure Reach where
  length : Nat
  depth : Nat
  deriving DecidableEq

/-- The reach of a body that has `count` more characters in front. -/
def Reach.after (count : Nat) (reach : Reach) : Reach :=
  ⟨reach.length + count, reach.depth⟩

@[simp] theorem Reach.length_after (count : Nat) (reach : Reach) :
    (reach.after count).length = reach.length + count := rfl

@[simp] theorem Reach.depth_after (count : Nat) (reach : Reach) :
    (reach.after count).depth = reach.depth := rfl

/-- How far the body of a group reaches from a given depth of nesting.  A backslash takes the next
character with it.  The body ends in front of a closer that matches no opener, in front of an
interpolation if there can be one, and at the end of the text. -/
def bodyReach (group : Group) (depth : Nat) : List Char → Reach
  | [] => ⟨0, depth⟩
  | c :: rest =>
      if c = '\\' then
        match rest with
        | [] => ⟨1, depth⟩
        | _ :: behind => (bodyReach group depth behind).after 2
      else if group.interpolating ∧ c = '#' ∧ rest.head? = some '{' then ⟨0, depth⟩
      else if c = group.closer then
        if depth = 0 then ⟨0, depth⟩ else (bodyReach group (depth - 1) rest).after 1
      else if group.nests ∧ c = group.opener then (bodyReach group (depth + 1) rest).after 1
      else (bodyReach group depth rest).after 1

/-- A body stays within the text. -/
theorem length_bodyReach_le (group : Group) (depth : Nat) (text : List Char) :
    (bodyReach group depth text).length ≤ text.length := by
  fun_induction bodyReach group depth text <;> simp_all

namespace Scan

/-! ## Openings -/

/-- Three quotation marks open a heredoc. -/
def heredocOpening (scan : Scan) : Option Match :=
  match scan.rest with
  | [] => none
  | quote :: _ =>
      match quotedLiteral? quote with
      | none => none
      | some literal =>
          if beginsWithMarker quote scan.rest then
            some (Match.moving .heredocPromoter 3
              (.push (.heredocOpen (Heredoc.opened literal quote true))))
          else
            none

/-- A double quote opens a string. -/
def stringOpening (scan : Scan) : Option Match :=
  if scan.rest.head? = some '"' then
    some (Match.moving .stringPromoter 1 (.push (.group (Group.quoted .string '"'))))
  else
    none

/-- An apostrophe opens a character list. -/
def charListOpening (scan : Scan) : Option Match :=
  if scan.rest.head? = some '\'' then
    some (Match.moving .charListPromoter 1 (.push (.group (Group.quoted .charList '\''))))
  else
    none

/-- A `~` opens a sigil if a letter and a delimiter follow; only the `~` is consumed. -/
def sigilOpening (scan : Scan) : Option Match :=
  match scan.rest with
  | tilde :: letter :: delimiter :: _ =>
      if tilde = '~' ∧ letter.isAlpha ∧ isSigilDelimiter delimiter then
        some ⟨.tilde, 1, 3, 0, .push .sigilName⟩
      else
        none
  | _ => none

/-- The letter of a sigil.  A lower-case letter lets the body interpolate. -/
def sigilName (scan : Scan) : Option Match :=
  match scan.rest with
  | [] => none
  | letter :: _ =>
      if letter.isAlpha then
        some (Match.moving .sigilName 1 (.replace (.sigilDelimiter letter.isLower)))
      else
        none

/-- Three quotation marks behind the letter of a sigil make its body a heredoc. -/
def sigilHeredoc (scan : Scan) : Option Match :=
  match scan.mode, scan.rest with
  | .sigilDelimiter interpolating, quote :: _ =>
      if (quotedLiteral? quote).isSome ∧ beginsWithMarker quote scan.rest then
        some (Match.moving .heredocPromoter 3
          (.replace (.heredocOpen (Heredoc.opened .sigil quote interpolating))))
      else
        none
  | _, _ => none

/-- The delimiter that opens the body of a sigil. -/
def sigilDelimiter (scan : Scan) : Option Match :=
  match scan.mode, scan.rest with
  | .sigilDelimiter interpolating, opener :: _ =>
      if isSigilDelimiter opener then
        some (Match.moving .sigilPromoter 1
          (.replace (.group (Group.sigil opener interpolating))))
      else
        none
  | _, _ => none

/-! ## Bodies and ends -/

/-- Text of a body.  The depth of nesting at its end is kept in the mode. -/
def groupBody (scan : Scan) : Option Match :=
  match scan.mode with
  | .group group =>
      let reach := bodyReach group group.depth scan.rest
      if reach.length = 0 then none
      else if reach.depth = group.depth then
        some (Match.plain group.literal.bodyKind reach.length)
      else
        some (Match.moving group.literal.bodyKind reach.length
          (.replace (.group { group with depth := reach.depth })))
  | _ => none

/-- The closer of a body in which nothing is nested. -/
def groupTerminator (scan : Scan) : Option Match :=
  match scan.mode, scan.rest with
  | .group group, c :: rest =>
      if group.depth = 0 ∧ c = group.closer then
        some (Match.moving group.literal.terminatorKind 1 (closing group.literal rest))
      else
        none
  | _, _ => none

/-- One letter behind a sigil. -/
def sigilModifier (scan : Scan) : Option Match :=
  if scan.rest.head?.any Char.isAlpha then some (Match.plain .sigilModifier 1) else none

end Scan

end ElixirLexer
