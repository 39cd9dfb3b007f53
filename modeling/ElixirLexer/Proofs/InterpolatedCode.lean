import ElixirLexer.Proofs.Delimiters
import ElixirLexer.Proofs.Embedding

/-!
# Code in an interpolation

Code that ends a line and whose braces match is lexed in an interpolation of a string as it is lexed
alone (`tokenize_interpolated`).  The string and the interpolation are the ground on which the code
is read.  The braces of plain code are counted in the frame of the interpolation, which is why they
must not close more than they opened; those of literals and of further interpolations are not,
because they are read under frames of their own.

What the lines of a heredoc in the code lose may change: the search for the line that closes the
heredoc may look beyond the code.
-/

namespace ElixirLexer

/-! ## Around the code -/

section

variable {before : List Char} {options : Options} (tail : List Char)

/-- In a string `#` and a brace open an interpolation. -/
theorem classify_interpolationStart :
    classify ⟨before, '#' :: '{' :: tail⟩ (.group (Group.quoted .string '"')) options =
      .emit (Match.moving .interpolationStart 2 (.push (.interpolation 0))) := by
  have hbody : Scan.groupBody
      ⟨⟨before, '#' :: '{' :: tail⟩, .group (Group.quoted .string '"'), options⟩ = none := by
    simp [Scan.groupBody, Scan.rest, bodyReach, Group.quoted]
  unfold classify
  simp only [Mode.id, Rule.table, longest_cons, longest_nil, Rule.answer, hbody]
  simp [Scan.interpolationStart, Scan.groupTerminator, Scan.rest, Mode.isInterpolating,
    beginsWithInterpolation, Group.quoted]

/-- A brace that closes none of the code ends the interpolation. -/
theorem classify_interpolationEnd :
    classify ⟨before, '}' :: tail⟩ (.interpolation 0) options =
      .emit (Match.moving .interpolationEnd 1 .pop) := by
  have hplain : classify ⟨before, '}' :: tail⟩ .initial options =
      .emit (Match.plain .closeBrace 1) := by
    unfold classify
    simp only [Mode.id, Rule.table]
    rw [Rule.longest_closeBrace rfl]
  exact classify_interpolation 0 (List.cons_ne_nil _ _) hplain

end

namespace Lexer

/-- The frame of a string that begins with the text. -/
def stringFrame : Frame :=
  ⟨.group (Group.quoted .string '"'), 0⟩

/-- A lexer behind the string and the interpolation that a text begins with. -/
def insideString (tail : List Char) (options : Options) : Lexer :=
  ⟨⟨['{', '#', '"'], tail⟩, ⟨[⟨.interpolation 0, 1⟩, stringFrame], 0⟩, options, [], false⟩

theorem reads_interpolationStart (tail : List Char) (options : Options) :
    Reads (ofText ('"' :: '#' :: '{' :: tail) options)
      [⟨.stringPromoter, ⟨0, 1⟩, .group, 0⟩, ⟨.interpolationStart, ⟨1, 2⟩, .interpolation, 0⟩]
      (insideString tail options) := by
  have hstring := Reads.of_classify (ofText ('"' :: '#' :: '{' :: tail) options)
    (List.cons_ne_nil _ _) (classify_quoteOpening rfl rfl) rfl
  have hstart := Reads.of_classify
    ⟨⟨['"'], '#' :: '{' :: tail⟩, ⟨[stringFrame], 0⟩, options, [], false⟩
    (List.cons_ne_nil _ _) (classify_interpolationStart tail) rfl
  exact hstring.trans hstart

theorem reads_interpolationEnd (lexer : Lexer) (hrest : lexer.cursor.rest = ['}', '"'])
    (hstack : lexer.stack = ⟨[⟨.interpolation 0, 1⟩, stringFrame], 0⟩) :
    ∃ last, Reads lexer
      [⟨.interpolationEnd, ⟨lexer.offset, 1⟩, .group, 0⟩,
        ⟨.stringTerminator, ⟨lexer.offset + 1, 1⟩, .initial, 0⟩] last ∧
      last.cursor.rest = [] ∧ last.stack = .initial := by
  obtain ⟨⟨before, rest⟩, stack, options, diagnostics, finished⟩ := lexer
  obtain rfl : rest = ['}', '"'] := hrest
  obtain rfl : stack = ⟨[⟨.interpolation 0, 1⟩, stringFrame], 0⟩ := hstack
  have hend := Reads.of_classify
    ⟨⟨before, ['}', '"']⟩, ⟨[⟨.interpolation 0, 1⟩, stringFrame], 0⟩, options, diagnostics,
      finished⟩
    (List.cons_ne_nil _ _) (classify_interpolationEnd ['"']) rfl
  have hclose := Reads.of_classify
    ⟨⟨'}' :: before, ['"']⟩, ⟨[stringFrame], 0⟩, options, diagnostics ++ [], finished⟩
    (List.cons_ne_nil _ _) (Group.Holds.nil.classify_eq (.quote rfl)) rfl
  exact ⟨_, hend.trans hclose, rfl, rfl⟩

/-! ## The code -/

/-- What is read of the code alone is read of it behind the start of the interpolation, and the
interpolation is left as it was. -/
theorem Reads.exists_inside {code : List Char} {options : Options} {tokens : List Token}
    {last : Lexer} (hreads : Reads (ofText code options) tokens last)
    (hlast : last.cursor.rest = []) (hends : code = [] ∨ EndsInBreak tokens)
    (hbraces : openBraces 0 tokens = some 0)
    (hmark : code.head? ≠ some byteOrderMark ∨ options.acceptByteOrderMark = false) :
    ∃ inner behind, Reads (insideString (code ++ ['}', '"']) options) inner behind ∧
      inner.map Token.unindented =
        tokens.map (fun token => ((token.moved 3).inside .interpolation).unindented) ∧
      reports (['"', '#', '{'] ++ code ++ ['}', '"']) options inner =
        (reports code options tokens).map (Diagnostic.moved 3) ∧
      behind.cursor.rest = ['}', '"'] ∧ behind.offset = 3 + code.length ∧
      behind.stack.above = [⟨.interpolation 0, 1⟩, stringFrame] := by
  let setting : Setting := ⟨false, ['"', '#', '{'], ['}', '"'], .interpolation 1 [stringFrame]⟩
  have hembeds : setting.Embeds 0 (ofText code options)
      (insideString (code ++ ['}', '"']) options) :=
    Setting.embeds_ofText (insideString (code ++ ['}', '"']) options) rfl rfl (by simp [setting])
      (.inr hmark)
  have hline : code = [] ∨ EndsLine code setting.tail ∧ EndsInBreak tokens :=
    hends.imp_right fun hbreak =>
      ⟨(hreads.endsLine_of_endsInBreak hlast hbreak).of_nil (by simp [setting]), hbreak⟩
  obtain ⟨inner, behind, hinner, htokens, hcursor, habove⟩ :=
    hembeds.exists_reads rfl hreads hlast hline hbraces
  refine ⟨inner, behind, hinner, htokens, setting.reports_eq options hreads.start_lt htokens,
    by rw [hcursor], ?_, habove⟩
  rw [offset, Cursor.offset, hcursor, List.length_append, List.length_reverse, Nat.add_comm]
  rfl

end Lexer

/-- `whole` says about a text what `alone` says about the `count` characters of code that stand in
an interpolation of its string. -/
structure Lexed.Encloses (count : Nat) (alone whole : Lexed) : Prop where
  /-- Only what the lines of a heredoc lose may be different. -/
  tokens_eq : ∃ inner,
    inner.map Token.unindented =
      alone.tokens.map (fun token => ((token.moved 3).inside .interpolation).unindented) ∧
    whole.tokens =
      [⟨.stringPromoter, ⟨0, 1⟩, .group, 0⟩, ⟨.interpolationStart, ⟨1, 2⟩, .interpolation, 0⟩] ++
      inner ++
      [⟨.interpolationEnd, ⟨3 + count, 1⟩, .group, 0⟩,
        ⟨.stringTerminator, ⟨3 + count + 1, 1⟩, .initial, 0⟩]
  diagnostics_eq : whole.diagnostics =
    (alone.diagnostics.filter fun diagnostic => !diagnostic.problem.isUnterminated).map
      (Diagnostic.moved 3)
  finalFrames_eq : whole.finalFrames = [⟨.initial, 0⟩]

/-- **Code is lexed in an interpolation as it is lexed alone.**  If the code is empty or ends with a
line break of plain code, its own braces match, and it does not begin with a mark that would be
accepted, then it gives the same tokens between those of the string and the interpolation, and plain
code becomes interpolated code.  Everything is closed behind it, and only the bad characters of the
code are reported.  That every construct of the code has its end need not be asked: nothing is open
behind a line break of plain code. -/
theorem tokenize_interpolated {options : Options} {code : List Char} {alone : Lexed}
    (halone : tokenize options code = .ok alone)
    (hends : code = [] ∨ EndsInBreak alone.tokens)
    (hbraces : openBraces 0 alone.tokens = some 0)
    (hmark : code.head? ≠ some byteOrderMark ∨ options.acceptByteOrderMark = false) :
    ∃ whole, tokenize options (['"', '#', '{'] ++ code ++ ['}', '"']) = .ok whole ∧
      alone.Encloses code.length whole := by
  obtain ⟨tokens, last, hreads, hlast, htokenize⟩ := Lexer.exists_reads_of_tokenize code options
  obtain rfl := Except.ok.inj (halone.symm.trans htokenize)
  obtain ⟨inner, behind, hinner, htokens, hreports, hrest, hoffset, habove⟩ :=
    hreads.exists_inside hlast hends hbraces hmark
  have hinside := (Lexer.reads_interpolationStart (code ++ ['}', '"']) options).trans hinner
  have hstack := ((Lexer.IsShaped.ofText _ options).reads hinside).stack_eq
  rw [habove] at hstack
  obtain ⟨final, hend, hfinal, hclosed⟩ := Lexer.reads_interpolationEnd behind hrest hstack
  have hwhole := hinside.trans hend
  obtain ⟨-, hreported⟩ := hreads.finish_of_text
  obtain ⟨hopen, hended⟩ := hwhole.finish_of_text
  rw [hclosed] at hopen hended
  refine ⟨_, hwhole.tokenize_eq hfinal, ?_⟩
  exact {
    tokens_eq := ⟨inner, htokens, by rw [hoffset]⟩
    diagnostics_eq := by
      have hnone : Lexer.unterminated (Lexer.withoutModifiers .initial) final.offset = [] := rfl
      show final.finish.lexer.diagnostics = (last.finish.lexer.diagnostics.filter _).map _
      rw [hreported, (Lexer.filter_isUnterminated _ _ _ _ _).2, hended, hnone, reports_append,
        reports_append, ← hreports]
      -- The tokens around the code are no bad characters.
      simp [reports, Token.report?]
    finalFrames_eq := congrArg Stack.frames hopen }

/-- Braces around a string that holds an interpolation of its own, with a closing brace as a
character literal in it, and a character that begins no token. -/
def bracedString : List Char :=
  ['{', '"', '#', '{', '?', '}', '}', '"', '}', '§', '\n']

theorem tokenize_interpolated_bracedString :
    ∃ alone, tokenize {} bracedString = .ok alone ∧ EndsInBreak alone.tokens ∧
      openBraces 0 alone.tokens = some 0 ∧ bracedString.head? ≠ some byteOrderMark ∧
      ∃ whole, tokenize {} (['"', '#', '{'] ++ bracedString ++ ['}', '"']) = .ok whole ∧
        alone.Encloses 11 whole := by
  obtain ⟨tokens, last, -, -, htokenize⟩ := Lexer.exists_reads_of_tokenize bracedString {}
  have htokens : (tokenize {} bracedString).toOption.map (fun alone =>
      (alone.tokens.getLast?, openBraces 0 alone.tokens)) =
        some (some ⟨.eol, ⟨10, 1⟩, .initial, 0⟩, some 0) := by
    decide +kernel
  rw [htokenize] at htokens
  obtain ⟨hlast, hbraces⟩ := Prod.mk.inj (Option.some.inj htokens)
  have hbreak : EndsInBreak tokens := ⟨_, hlast, rfl, rfl⟩
  have hmark : bracedString.head? ≠ some byteOrderMark := by decide
  exact ⟨_, htokenize, hbreak, hbraces, hmark,
    tokenize_interpolated htokenize (.inr hbreak) hbraces (.inl hmark)⟩

end ElixirLexer
