import ElixirLexer.CommandLine
import ElixirLexer.Proofs.Partition
import ElixirLexer.Proofs.Unquoting

/-!
# Nothing is lost in a token dump

The dump of a file has a line for each of its tokens, and the last field of a line is the quoted
text of the token.  No text breaks out of its field, so a dump can be taken apart without knowing
what it was made of (`readDump`): cut it into lines, take what is behind the last tab, undo the
escapes, and put the pieces together.  Since the tokens cover the text, this gives back the file
(`run_tokens_lossless`).

Only the dump of a single file can be read in this way.  Of several files the dumps follow each
other without a mark between them.
-/

namespace ElixirLexer.CommandLine

/-! ## Reading a dump -/

/-- The lines of an output.  What is behind the last line end is not one. -/
def outputLines (output : List Char) : List (List Char) :=
  (output.splitOn '\n').dropLast

/-- The last of the fields between tabs. -/
def lastField (line : List Char) : List Char :=
  (line.splitOn '\t').getLastD []

/-- The text that a dump was made of. -/
def readDump (output : List Char) : Option (List Char) :=
  ((outputLines output).mapM fun line => Quoted.read? (lastField line)).map List.flatten

/-- The bytes of the file that a dump was made of. -/
def fileOfDump (output : String) : Option ByteArray :=
  (readDump output.toList).map fun text => (String.ofList text).toUTF8

/-- Lines with their ends are cut apart again. -/
theorem outputLines_flatMap {lines : List (List Char)} (h : ∀ line ∈ lines, '\n' ∉ line) :
    outputLines (lines.flatMap fun line => line ++ ['\n']) = lines := by
  have hsplit : (lines.flatMap fun line => line ++ ['\n']).splitOn '\n' = lines ++ [[]] := by
    induction lines with
    | nil => rfl
    | cons line lines ih =>
        obtain ⟨hfirst, hothers⟩ := List.forall_mem_cons.mp h
        rw [List.flatMap_cons, List.append_assoc, List.singleton_append,
          List.splitOn_append_cons_self_of_not_mem hfirst, ih hothers, List.cons_append]
  rw [outputLines, hsplit, List.dropLast_concat]

theorem toList_unlines (lines : List String) :
    (unlines lines).toList = (lines.map String.toList).flatMap fun line => line ++ ['\n'] := by
  simp [unlines, String.toList_join, List.flatMap_map]

/-! ## The fields of a line -/

/-- A field has neither tabs nor line ends. -/
def IsField (field : List Char) : Prop :=
  ∀ c ∈ field, c ≠ '\t' ∧ c ≠ '\n'

theorem IsField.notMem {field : List Char} (h : IsField field) : '\t' ∉ field ∧ '\n' ∉ field :=
  ⟨fun hmem => (h _ hmem).1 rfl, fun hmem => (h _ hmem).2 rfl⟩

theorem isField_position (position : Position) :
    IsField (Nat.toDigits 10 position.line ++ ':' :: Nat.toDigits 10 position.column) := by
  have hdigit {number : Nat} {c : Char} (h : c ∈ Nat.toDigits 10 number) :
      c ≠ '\t' ∧ c ≠ '\n' := by
    have hc := Nat.isDigit_of_mem_toDigits (by omega) (by omega) h
    constructor <;> (rintro rfl; exact absurd hc (by decide))
  intro c hc
  rcases List.mem_append.mp hc with hc | hc
  · exact hdigit hc
  · rcases List.mem_cons.mp hc with rfl | hc
    · decide
    · exact hdigit hc

theorem isField_of_all {field : List Char} (h : field.all fun c => c != '\t' && c != '\n') :
    IsField field := by
  simpa [IsField] using h

theorem isField_kind (kind : Kind) : IsField kind.name.toList :=
  isField_of_all (by cases kind <;> decide)

theorem isField_state (state : ModeId) : IsField state.name.toList :=
  isField_of_all (by cases state <;> decide)

/-- A line of a token has four fields, of which the last is its quoted text. -/
theorem exists_fields (lexed : Lexed) (token : Token) :
    ∃ position kind state, IsField position ∧ IsField kind ∧ IsField state ∧
      (tokenLine lexed token).toList = position ++
        '\t' :: (kind ++ '\t' :: (state ++ '\t' :: Quoted.text (lexed.text token))) := by
  refine ⟨_, _, _, isField_position (lexed.source.position token.span.start),
    isField_kind token.kind, isField_state token.state, ?_⟩
  have hself (text : String) : toString text = text := rfl
  simp [tokenLine, hself]

theorem isField_text (text : List Char) : IsField (Quoted.text text) :=
  fun _ hmem => Quoted.ne_tab_of_mem_text hmem

section

variable (lexed : Lexed) (token : Token)

theorem newline_notMem_tokenLine : '\n' ∉ (tokenLine lexed token).toList := by
  obtain ⟨position, kind, state, hposition, hkind, hstate, hline⟩ := exists_fields lexed token
  have htext := (isField_text (lexed.text token)).notMem.2
  simp [hline, hposition.notMem.2, hkind.notMem.2, hstate.notMem.2, htext]

theorem count_tab_tokenLine : (tokenLine lexed token).toList.count '\t' = 3 := by
  obtain ⟨position, kind, state, hposition, hkind, hstate, hline⟩ := exists_fields lexed token
  have hnone {field : List Char} (h : IsField field) : field.count '\t' = 0 :=
    List.count_eq_zero.mpr h.notMem.1
  simp [hline, hnone hposition, hnone hkind, hnone hstate, hnone (isField_text (lexed.text token))]

theorem lastField_tokenLine :
    lastField (tokenLine lexed token).toList = Quoted.text (lexed.text token) := by
  obtain ⟨position, kind, state, hposition, hkind, hstate, hline⟩ := exists_fields lexed token
  rw [lastField, hline, List.splitOn_append_cons_self_of_not_mem hposition.notMem.1,
    List.splitOn_append_cons_self_of_not_mem hkind.notMem.1,
    List.splitOn_append_cons_self_of_not_mem hstate.notMem.1,
    List.splitOn_eq_singleton (isField_text (lexed.text token)).notMem.1]
  rfl

end

/-! ## Dumps -/

/-- An output has one line for each token, in their order, and each line has three tabs. -/
structure Dumps (lexed : Lexed) (output : String) : Prop where
  ends_eq : output.toList = (outputLines output.toList).flatMap fun line => line ++ ['\n']
  lines_eq : outputLines output.toList =
    lexed.tokens.map fun token => (tokenLine lexed token).toList
  tabs_eq : ∀ line ∈ outputLines output.toList, line.count '\t' = 3

theorem dumps_unlines (lexed : Lexed) :
    Dumps lexed (unlines (lexed.tokens.map (tokenLine lexed))) := by
  have hlines : outputLines (unlines (lexed.tokens.map (tokenLine lexed))).toList =
      lexed.tokens.map fun token => (tokenLine lexed token).toList := by
    rw [toList_unlines, outputLines_flatMap]
    · simp
    · simpa using fun token _ => newline_notMem_tokenLine lexed token
  refine ⟨?_, hlines, ?_⟩
  · rw [hlines, toList_unlines, List.map_map]
    rfl
  · rw [hlines]
    simpa using fun token _ => count_tab_tokenLine lexed token

/-- From a dump the texts of the tokens are read back. -/
theorem Dumps.readDump_eq {lexed : Lexed} {output : String} (h : Dumps lexed output) :
    readDump output.toList = some (lexed.tokens.flatMap lexed.text) := by
  have hlines (tokens : List Token) : (tokens.map fun token => (tokenLine lexed token).toList).mapM
      (fun line => Quoted.read? (lastField line)) = some (tokens.map lexed.text) := by
    induction tokens with
    | nil => rfl
    | cons token tokens ih =>
        simp [List.mapM_cons, lastField_tokenLine, Quoted.read?_text, ih]
  rw [readDump, h.lines_eq, hlines, Option.map_some, List.flatMap_def]

/-- The program dumps the tokens of a file that holds text, and they cover the text. -/
theorem exists_dump {read : String → Except ReadError String} {path text : String}
    (hread : read path = .ok text) :
    ∃ lexed outcome, tokenize {} text.toList = .ok lexed ∧
      Request.run read (.ofArguments ["tokens", path]) = .ok outcome ∧
      Dumps lexed outcome.output ∧ lexed.tokens.flatMap lexed.text = text.toList := by
  have hcursor : (Lexer.ofText text.toList {}).cursor = Cursor.ofText text.toList := rfl
  obtain ⟨tokens, mark, last, hcovers⟩ := Lexer.exists_covers hcursor
  obtain ⟨events, hdrain⟩ := hcovers.drain_eq
  have htokenize : tokenize {} text.toList = .ok ⟨Source.ofList text.toList, tokens,
      last.diagnostics, last.stack.frames⟩ := by
    simp [tokenize, hdrain, bind, Except.bind, pure, Except.pure]
  have hrun : Request.run read (.ofArguments ["tokens", path]) = .ok (Report.outcome
      ((reportText .tokens path ⟨Source.ofList text.toList, tokens, last.diagnostics,
        last.stack.frames⟩).append {})) := by
    simp [Request.ofArguments, Verb.ofName?, Request.run, reportFiles, reportFile, hread, htokenize,
      Except.map, bind, Except.bind, pure, Except.pure]
  refine ⟨_, _, htokenize, hrun, ?_, hcovers.slices_eq⟩
  have hdumps := dumps_unlines ⟨Source.ofList text.toList, tokens, last.diagnostics,
    last.stack.frames⟩
  simpa [Report.outcome, Report.append, reportText] using hdumps

section

variable {read : String → Except ReadError String} {path : String} {bytes : ByteArray}

theorem textOfBytes_eq_ok (hutf8 : bytes.IsValidUTF8) :
    textOfBytes bytes = .ok (String.fromUTF8 bytes hutf8) := by
  simp [textOfBytes, String.fromUTF8?, hutf8]

/-- The dump of a file gives back its bytes. -/
theorem exists_dump_of_bytes (hutf8 : bytes.IsValidUTF8) (hread : read path = textOfBytes bytes) :
    ∃ lexed outcome, tokenize {} (String.fromUTF8 bytes hutf8).toList = .ok lexed ∧
      Request.run read (.ofArguments ["tokens", path]) = .ok outcome ∧
      Dumps lexed outcome.output ∧ fileOfDump outcome.output = some bytes := by
  obtain ⟨lexed, outcome, htokenize, hrun, hdumps, htext⟩ :=
    exists_dump (hread.trans (textOfBytes_eq_ok hutf8))
  refine ⟨lexed, outcome, htokenize, hrun, hdumps, ?_⟩
  rw [fileOfDump, hdumps.readDump_eq, htext, Option.map_some, String.ofList_toList]
  rfl

/-- **Nothing is lost in a token dump.**  For a file whose bytes are UTF-8, whatever they say, the
program prints one line for each token, with three tabs; reading the quoted texts at their ends back
gives the bytes of the file.  So no other such file has the same dump. -/
theorem run_tokens_lossless (read : String → Except ReadError String) (path : String)
    (hutf8 : bytes.IsValidUTF8) (hread : read path = textOfBytes bytes) :
    ∃ lexed outcome, tokenize {} (String.fromUTF8 bytes hutf8).toList = .ok lexed ∧
      Request.run read (.ofArguments ["tokens", path]) = .ok outcome ∧
      Dumps lexed outcome.output ∧ fileOfDump outcome.output = some bytes ∧
      ∀ {others : String → Except ReadError String} {other : String} {content : ByteArray}
        {second : Outcome}, content.IsValidUTF8 → others other = textOfBytes content →
        Request.run others (.ofArguments ["tokens", other]) = .ok second →
        second.output = outcome.output → content = bytes := by
  obtain ⟨lexed, outcome, htokenize, hrun, hdumps, hfile⟩ := exists_dump_of_bytes hutf8 hread
  refine ⟨lexed, outcome, htokenize, hrun, hdumps, hfile, ?_⟩
  intro others other content second hcontent hother hsecond hsame
  obtain ⟨-, dumped, -, hdumped, -, hback⟩ := exists_dump_of_bytes hcontent hother
  obtain rfl : dumped = second := Except.ok.inj (hdumped.symm.trans hsecond)
  rw [hsame, hfile] at hback
  exact (Option.some.inj hback).symm

/-- A string that goes on over a line end, with a tab and a quote of its own, and behind it a mark
that is written by its number. -/
theorem run_tokens_lossless_lineBreak :
    ∃ lexed outcome, tokenize {} "\"a\t\\\"\n\"\u0301".toList = .ok lexed ∧
      Request.run (fun _ => textOfBytes "\"a\t\\\"\n\"\u0301".toUTF8)
        (.ofArguments ["tokens", "a.ex"]) = .ok outcome ∧
      Dumps lexed outcome.output ∧
      fileOfDump outcome.output = some "\"a\t\\\"\n\"\u0301".toUTF8 := by
  obtain ⟨lexed, outcome, htokenize, hrun, hdumps, hfile, -⟩ :=
    run_tokens_lossless (fun _ => textOfBytes "\"a\t\\\"\n\"\u0301".toUTF8) "a.ex"
      (String.isValidUTF8 _) rfl
  exact ⟨lexed, outcome, htokenize, hrun, hdumps, hfile⟩

/-- An escaped line break stays on its line. -/
example : (Request.run (fun _ => .ok "?\\\n") (.ofArguments ["tokens", "a.ex"])).toOption.map
    Outcome.output = some "1:1\tCharToken\tInitial\t\"?\\\\\\n\"\n" := by
  decide +kernel

end

end ElixirLexer.CommandLine
