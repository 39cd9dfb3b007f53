import ElixirLexer.Lexer.Run

/-!
# The command line

What the program does with its arguments, as a function from the arguments and the contents of the
named files to the lines it prints and its exit code.  Tokens go to the output; usage, problems and
verdicts go to the error output.
-/

namespace ElixirLexer.CommandLine

/-! ## Requests -/

/-- What is done with the files. -/
inductive Verb
  /-- Prints one line per token. -/
  | tokens
  /-- Prints a verdict on every file. -/
  | check
  deriving DecidableEq

/-- What the arguments ask for. -/
inductive Request
  | usage
  | unknownCommand (name : String)
  | noFiles
  | files (verb : Verb) (paths : List String)

/-- The verb of a name. -/
def Verb.ofName? (name : String) : Option Verb :=
  if name = "tokens" then some .tokens
  else if name = "check" then some .check
  else none

/-- Reads the arguments.  Only the first of them can ask for help. -/
def Request.ofArguments : List String → Request
  | [] => .usage
  | first :: paths =>
      if first = "--help" ∨ first = "-h" then .usage
      else
        match Verb.ofName? first with
        | none => .unknownCommand first
        | some verb => if paths.isEmpty then .noFiles else .files verb paths

/-! ## Files -/

/-- Why the text of a file cannot be had. -/
inductive ReadError
  /-- The system refused, for a reason with a number. -/
  | system (reason : String) (code : Nat)
  /-- The bytes are not UTF-8. -/
  | notText

/-- There is no such file. -/
def ReadError.missing : ReadError :=
  .system "No such file or directory" 2

/-- The report of an unreadable file. -/
def ReadError.message : ReadError → String
  | .system reason code => s!"{reason} (os error {code})"
  | .notText => "stream did not contain valid UTF-8"

/-- The text that the bytes of a file hold. -/
def textOfBytes (bytes : ByteArray) : Except ReadError String :=
  match String.fromUTF8? bytes with
  | some text => .ok text
  | none => .error .notText

/-! ## Reports -/

/-- Lines printed so far, and whether something was wrong. -/
structure Report where
  output : List String := []
  errors : List String := []
  failed : Bool := false

/-- One report after another. -/
def Report.append (first second : Report) : Report :=
  ⟨first.output ++ second.output, first.errors ++ second.errors, first.failed || second.failed⟩

/-- The line of a token: its position, its kind, the mode behind it and its quoted text. -/
def tokenLine (lexed : Lexed) (token : Token) : String :=
  let position := lexed.source.position token.span.start
  s!"{position.line}:{position.column}\t{token.kind.name}\t{token.state.name}\t"
    ++ String.ofList (Quoted.text (lexed.text token))

/-- The line of a diagnostic. -/
def diagnosticLine (path : String) (source : Source) (diagnostic : Diagnostic) : String :=
  let position := source.position diagnostic.origin
  s!"{path}:{position.line}:{position.column}: {diagnostic.problem.message}"

/-- The report on the text of one file. -/
def reportText (verb : Verb) (path : String) (lexed : Lexed) : Report :=
  { output := if verb = .tokens then lexed.tokens.map (tokenLine lexed) else []
    errors :=
      if lexed.diagnostics.isEmpty ∧ verb = .check then
        [s!"{path}: ok ({lexed.tokens.length} token(s))"]
      else
        lexed.diagnostics.map (diagnosticLine path lexed.source)
    failed := !lexed.diagnostics.isEmpty }

/-- The report on one file. -/
def reportFile (verb : Verb) (path : String) (content : Except ReadError String) :
    Except Fault Report :=
  match content with
  | .error reason => .ok { errors := [s!"{path}: {reason.message}"], failed := true }
  | .ok text => (tokenize {} text.toList).map (reportText verb path)

/-- The reports on several files, in their order. -/
def reportFiles (verb : Verb) :
    List (String × Except ReadError String) → Except Fault Report
  | [] => .ok {}
  | (path, content) :: later => do
      let first ← reportFile verb path content
      let others ← reportFiles verb later
      pure (first.append others)

/-! ## Outcomes -/

/-- What the program prints, and its exit code. -/
structure Outcome where
  exitCode : Nat
  output : String
  errors : String

/-- Lines with their ends. -/
def unlines (lines : List String) : String :=
  String.join (lines.map fun line => line ++ "\n")

/-- The help on the command line. -/
def helpText : List String := [
  "Usage: exlex <command> [files...]",
  "",
  "Commands:",
  "  tokens  Print one line per token",
  "  check   Report unterminated literals and bad characters",
  "",
  "Examples:",
  "  exlex tokens lib/app.ex",
  "  RUST_LOG=exlex=trace exlex check lib/app.ex"]

/-- A request that cannot be carried out. -/
def refusal (lines : List String) : Outcome :=
  ⟨2, "", unlines lines⟩

/-- The outcome of a report: problems of any file make the exit code one. -/
def Report.outcome (report : Report) : Outcome :=
  ⟨if report.failed then 1 else 0, unlines report.output, unlines report.errors⟩

/-- The files that a request is about. -/
def Request.paths : Request → List String
  | .files _ paths => paths
  | _ => []

/-- Carries out a request on files with the given contents. -/
def Request.run (read : String → Except ReadError String) : Request → Except Fault Outcome
  | .usage => .ok (refusal helpText)
  | .unknownCommand name => .ok (refusal [s!"Unknown command: {name}"])
  | .noFiles => .ok (refusal ["Error: no files specified"])
  | .files verb paths =>
      (reportFiles verb (paths.map fun path => (path, read path))).map Report.outcome

end ElixirLexer.CommandLine
