import ElixirLexer.Token.Kind

/-!
# Lexical modes

The mode says which construct the lexer is inside of, and carries what is needed to find the end of
that construct.  Modes take any context: nothing here forces an opener and a closer to be a pair of
delimiters, or a quote to be a quotation mark.
-/

namespace ElixirLexer

/-! ## Literals -/

/-- The literals whose bodies are lexed as text. -/
inductive Literal
  | sigil
  | string
  | charList
  deriving DecidableEq

/-- The body and the closing delimiter of each literal are tokens of their own kinds. -/
def Literal.bodyKind : Literal → Kind
  | .sigil => .sigilBody
  | .string => .stringBody
  | .charList => .charListBody

/-- The kind of the closing delimiter. -/
def Literal.terminatorKind : Literal → Kind
  | .sigil => .sigilTerminator
  | .string => .stringTerminator
  | .charList => .charListTerminator

/-- The name of a literal. -/
def Literal.name : Literal → String
  | .sigil => "Sigil"
  | .string => "String"
  | .charList => "CharList"

/-- The delimiter that closes what `opener` opens: the other bracket, or the same character. -/
def closingDelimiter (opener : Char) : Char :=
  if opener = '(' then ')'
  else if opener = '[' then ']'
  else if opener = '{' then '}'
  else if opener = '<' then '>'
  else opener

/-- A literal between single delimiters. -/
structure Group where
  literal : Literal
  opener : Char
  closer : Char
  /-- Openers of the body that wait for their closers. -/
  depth : Nat
  interpolating : Bool
  deriving DecidableEq

namespace Group

/-- The body of a sigil opened by `opener`. -/
def sigil (opener : Char) (interpolating : Bool) : Group :=
  ⟨.sigil, opener, closingDelimiter opener, 0, interpolating⟩

/-- The body of a string or character list, which always interpolates. -/
def quoted (literal : Literal) (quote : Char) : Group :=
  ⟨literal, quote, quote, 0, true⟩

/-- Delimiters nest only if they differ. -/
def nests (group : Group) : Bool :=
  group.opener != group.closer

end Group

/-- A literal between two markers of three quotes, read line by line. -/
structure Heredoc where
  literal : Literal
  quote : Char
  interpolating : Bool
  /-- Width of the indentation in front of the closing marker; zero until the opening line has been
  read. -/
  indent : Nat
  deriving DecidableEq

/-- A heredoc at its opening marker. -/
def Heredoc.opened (literal : Literal) (quote : Char) (interpolating : Bool) : Heredoc :=
  ⟨literal, quote, interpolating, 0⟩

/-! ## Modes -/

/-- What the lexer is inside of. -/
inductive Mode
  /-- Plain code. -/
  | initial
  /-- Behind `~`, in front of the letter of the sigil. -/
  | sigilName
  /-- Behind the letter of a sigil, in front of its delimiter. -/
  | sigilDelimiter (interpolating : Bool)
  | group (group : Group)
  /-- The rest of the line that opens a heredoc. -/
  | heredocOpen (heredoc : Heredoc)
  | heredocBody (heredoc : Heredoc)
  /-- Behind the closing delimiter of a sigil, in front of its letters. -/
  | sigilModifiers
  /-- Code inside `#{…}`, with the number of braces still open in it. -/
  | interpolation (depth : Nat)
  deriving DecidableEq

/-- A mode without its context.  Tokens carry it, and each has its own table of rules. -/
inductive ModeId
  | initial
  | sigilName
  | sigilDelimiter
  | group
  | heredocOpen
  | heredocBody
  | sigilModifiers
  | interpolation
  deriving DecidableEq

/-- The name of a mode. -/
def ModeId.name : ModeId → String
  | .initial => "Initial"
  | .sigilName => "SigilName"
  | .sigilDelimiter => "SigilDelimiter"
  | .group => "Group"
  | .heredocOpen => "HeredocOpen"
  | .heredocBody => "HeredocBody"
  | .sigilModifiers => "SigilModifiers"
  | .interpolation => "Interpolation"

namespace Mode

/-- The mode without its context. -/
def id : Mode → ModeId
  | initial => .initial
  | sigilName => .sigilName
  | sigilDelimiter _ => .sigilDelimiter
  | group _ => .group
  | heredocOpen _ => .heredocOpen
  | heredocBody _ => .heredocBody
  | sigilModifiers => .sigilModifiers
  | interpolation _ => .interpolation

/-- The modes of the pieces around a sigil.  Where such a mode finds nothing of its own, it gives
way to the mode beneath it. -/
def isTransient : Mode → Bool
  | sigilName | sigilDelimiter _ | sigilModifiers => true
  | _ => false

end Mode

end ElixirLexer
