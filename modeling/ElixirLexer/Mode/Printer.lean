import ElixirLexer.Stack
import ElixirLexer.Text.Quoted

/-!
# Modes and transitions in words

How a change of the stack is written in the log: a constructor is written by its name, its
arguments in parentheses, and a record by its name and its fields in braces.
-/

namespace ElixirLexer

namespace Printer

/-- A constructor with one argument. -/
def applied (name argument : String) : String :=
  name ++ "(" ++ argument ++ ")"

/-- A record with named fields. -/
def record (name : String) (fields : List (String × String)) : String :=
  name ++ " \x7b " ++ ", ".intercalate (fields.map fun field => field.1 ++ ": " ++ field.2)
    ++ " \x7d"

/-- A truth value. -/
def flag (value : Bool) : String :=
  if value then "true" else "false"

/-- A character between apostrophes. -/
def character (c : Char) : String :=
  String.ofList (Quoted.character c)

end Printer

open Printer

/-- The record of a group. -/
def Group.print (group : Group) : String :=
  record "GroupContext" [
    ("literal", group.literal.name),
    ("opener", character group.opener),
    ("closer", character group.closer),
    ("depth", toString group.depth),
    ("interpolating", flag group.interpolating)]

/-- The record of a heredoc. -/
def Heredoc.print (heredoc : Heredoc) : String :=
  record "HeredocContext" [
    ("literal", heredoc.literal.name),
    ("quote", character heredoc.quote),
    ("interpolating", flag heredoc.interpolating),
    ("indent", toString heredoc.indent)]

/-- A mode with its context. -/
def Mode.print (mode : Mode) : String :=
  match mode with
  | .initial | .sigilName | .sigilModifiers => mode.id.name
  | .sigilDelimiter interpolating =>
      record mode.id.name [("interpolating", flag interpolating)]
  | .group body => applied mode.id.name body.print
  | .heredocOpen heredoc | .heredocBody heredoc => applied mode.id.name heredoc.print
  | .interpolation depth => record mode.id.name [("depth", toString depth)]

/-- A transition with its mode. -/
def Transition.print : Transition → String
  | .stay => "Stay"
  | .push mode => applied "Push" mode.print
  | .pop => "Pop"
  | .replace mode => applied "Replace" mode.print

end ElixirLexer
