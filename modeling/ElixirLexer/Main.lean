import ElixirLexer.CommandLine

/-!
# The program

Reads the files that the arguments name and prints what the command line makes of them.
-/

open ElixirLexer CommandLine

/-- The reason why the system refused to read a file. -/
def ElixirLexer.CommandLine.ReadError.ofSystem : IO.Error → ReadError
  | .noFileOrDirectory _ _ _ => .missing
  | .permissionDenied _ code reason => .system reason code.toNat
  | .inappropriateType _ code reason => .system reason code.toNat
  | .invalidArgument _ code reason => .system reason code.toNat
  | .resourceExhausted _ code reason => .system reason code.toNat
  | .hardwareFault code reason => .system reason code.toNat
  | .otherError code reason => .system reason code.toNat
  | refused => .system (toString refused) 0

/-- The text of a file. -/
def ElixirLexer.CommandLine.readText (path : String) : IO (Except ReadError String) := do
  try
    return textOfBytes (← IO.FS.readBinFile path)
  catch refused =>
    return .error (.ofSystem refused)

/-- The program.  A fault is a mistake in the program itself and has an exit code of its own. -/
def main (arguments : List String) : IO UInt32 := do
  let request := Request.ofArguments arguments
  let contents ← request.paths.mapM fun path => return (path, ← readText path)
  match request.run fun path => (contents.lookup path).getD (.error .missing) with
  | .ok outcome =>
      IO.print outcome.output
      IO.eprint outcome.errors
      return UInt32.ofNat outcome.exitCode
  | .error fault =>
      IO.eprintln fault.message
      return 101
