import ElixirLexer.Proofs.CodeRules
import ElixirLexer.Proofs.Restart
import ElixirLexer.Proofs.Sight

/-!
# What the options change

The options are two, and each does one thing (`tokenize_options`).

Whether bad characters are reported changes the reports and nothing else: the rules do not look at
it, so both lexers see the same.  Whether a byte-order mark is accepted is asked in front of the
first character only.  There is nothing to accept unless a text begins with the mark, and then the
lexer that refuses it takes the mark for a bad character and the blanks behind it for white space of
their own.  Behind these blanks the two lexers stand at the same offset and see the same again.
-/

namespace ElixirLexer

/-! ## White space behind a mark -/

/-- No rule of code but that of white space begins with a blank. -/
theorem Rule.filter_canBegin_of_isBlank {c : Char} (h : isBlank c) :
    code.filter (canBegin c) = [.whitespace] := by
  have hlisted : ∀ range ∈ Unicode.whiteSpace,
      ∀ place ∈ List.range' range.1 (range.2 + 1 - range.1),
        isLineBreak (Char.ofNat place) ∨
          code.filter (canBegin (Char.ofNat place)) = [.whitespace] := by
    decide +kernel
  simp only [isBlank, Bool.and_eq_true, Bool.not_eq_true'] at h
  obtain ⟨hspace, hbreak⟩ := h
  obtain ⟨range, hmem, hfirst, hlast⟩ := Unicode.Ranges.exists_of_covers hspace
  have hplace : c.toNat ∈ List.range' range.1 (range.2 + 1 - range.1) := by
    rw [List.mem_range'_1]
    omega
  rcases hlisted range hmem c.toNat hplace with hc | hc <;> rw [Char.ofNat_toNat] at hc
  · rw [hbreak] at hc
    simp at hc
  · exact hc

section

variable {before rest : List Char} {options : Options}

/-- Where only the rule of white space can answer, there is white space or a bad character. -/
theorem classify_of_filter_canBegin {c : Char} {tail : List Char}
    (h : Rule.code.filter (Rule.canBegin c) = [.whitespace]) :
    classify ⟨before, c :: tail⟩ .initial options =
      .emit ((Scan.whitespace ⟨⟨before, c :: tail⟩, .initial, options⟩).getD
        (Match.plain .badCharacter 1)) := by
  unfold classify
  simp only [Mode.id, Rule.table]
  rw [Rule.longest_code _ _ rfl, h, longest_cons, longest_nil, Match.prefer_none]
  simp only [Rule.answer]
  cases Scan.whitespace ⟨⟨before, c :: tail⟩, .initial, options⟩ <;> rfl

/-- Blanks that no accepted mark stands in front of are white space. -/
theorem classify_blanks (hbefore : before ≠ []) (hblank : (rest.takeWhile isBlank).length ≠ 0) :
    classify ⟨before, rest⟩ .initial options =
      .emit (Match.plain .whitespace (rest.takeWhile isBlank).length) := by
  cases rest with
  | nil => simp at hblank
  | cons c tail =>
      have hc : isBlank c := by
        by_contra hnot
        rw [List.takeWhile_cons_of_neg hnot] at hblank
        exact hblank rfl
      rw [classify_of_filter_canBegin (Rule.filter_canBegin_of_isBlank hc)]
      simp [Scan.whitespace, Scan.hasByteOrderMark, Cursor.offset, Scan.rest, Match.nonempty,
        hbefore, hblank]

theorem filter_canBegin_byteOrderMark :
    Rule.code.filter (Rule.canBegin byteOrderMark) = [.whitespace] := by
  decide +kernel

/-- An accepted mark and the blanks behind it are white space. -/
theorem classify_acceptedMark (haccept : options.acceptByteOrderMark) :
    classify ⟨[], byteOrderMark :: rest⟩ .initial options =
      .emit (Match.plain .whitespace (1 + (rest.takeWhile isBlank).length)) := by
  rw [classify_of_filter_canBegin filter_canBegin_byteOrderMark]
  simp [Scan.whitespace, Scan.hasByteOrderMark, Cursor.offset, Scan.rest, Match.nonempty, haccept]

/-- A mark that is not accepted is a bad character. -/
theorem classify_refusedMark (hrefuse : options.acceptByteOrderMark = false) :
    classify ⟨[], byteOrderMark :: rest⟩ .initial options =
      .emit (Match.plain .badCharacter 1) := by
  have hblank : isBlank byteOrderMark = false := by decide
  rw [classify_of_filter_canBegin filter_canBegin_byteOrderMark]
  simp [Scan.whitespace, Scan.hasByteOrderMark, Scan.rest, Match.nonempty, hrefuse, hblank]

end

/-! ## Texts without a mark -/

/-- The same lexer under other options. -/
def Lexer.under (options : Options) (lexer : Lexer) : Lexer :=
  { lexer with options }

/-- The same step under other options. -/
def Step.under (options : Options) (step : Step) : Step :=
  { step with lexer := step.lexer.under options }

/-- The same run under other options. -/
def Run.under (options : Options) (run : Run) : Run :=
  { run with lexer := run.lexer.under options }

namespace Lexer

/-- No byte-order mark is ahead that could be accepted. -/
def PassesMark (lexer : Lexer) : Prop :=
  lexer.cursor.before ≠ [] ∨ lexer.cursor.rest.head? ≠ some byteOrderMark

namespace PassesMark

variable {lexer last : Lexer} {options : Options}

theorem hasByteOrderMark_eq_false (h : lexer.PassesMark) (mode : Mode) (options : Options) :
    Scan.hasByteOrderMark ⟨lexer.cursor, mode, options⟩ = false := by
  rcases h with h | h
  · exact Scan.hasByteOrderMark_of_before mode options h
  · simp [Scan.hasByteOrderMark, Scan.rest, h]

/-- Where no mark can be accepted, a step does not ask whether it would be. -/
theorem step_under (h : lexer.PassesMark)
    (hreport : options.reportBadCharacters = lexer.options.reportBadCharacters) :
    (lexer.under options).step = lexer.step.map (Step.under options) := by
  by_cases hrest : lexer.cursor.rest = []
  · have hother : (lexer.under options).step = .ok (lexer.under options).finish :=
      step_of_rest_nil hrest
    rw [step_of_rest_nil hrest, hother]
    unfold finish under
    split <;> rfl
  · have hresembles : ∀ mode, Scan.Resembles ⟨lexer.cursor, mode, lexer.options⟩
        ⟨lexer.cursor, mode, options⟩ := fun mode =>
      ⟨rfl, rfl, by rw [h.hasByteOrderMark_eq_false, h.hasByteOrderMark_eq_false], fun _ => rfl⟩
    have hother := choose_congr rfl hresembles lexer.stack.base lexer.stack.above
    obtain ⟨choice, stack, hchosen, hcarried⟩ := exists_chosen hrest
    have hreports : (lexer.under options).badCharacters choice.found =
        lexer.badCharacters choice.found := by
      unfold badCharacters under
      rw [hreport]
      rfl
    have hstep : (lexer.under options).step =
        .ok ((lexer.under options).carryOut choice stack) :=
      step_eq_carryOut hrest (hother.trans hchosen.choose_eq) hchosen.length_le hchosen.apply_eq
    rw [hcarried, hstep]
    simp only [carryOut, hreports]
    rfl

/-- Behind a step there is no mark to accept either. -/
theorem step {next : Step} (h : lexer.PassesMark) (hstep : lexer.step = .ok next) :
    next.lexer.PassesMark ∧ next.lexer.options = lexer.options := by
  by_cases hrest : lexer.cursor.rest = []
  · rw [step_of_rest_nil hrest] at hstep
    obtain rfl := Except.ok.inj hstep
    rw [PassesMark, finish_cursor]
    refine ⟨h, ?_⟩
    unfold finish
    split <;> rfl
  · have hmoves := moves_of_step hrest hstep
    have hpos := hmoves.token_length_pos
    have hoffset := hmoves.offset
    refine ⟨.inl (List.ne_nil_of_length_pos ?_), hmoves.options⟩
    simp only [Lexer.offset, Cursor.offset, Span.stop] at hoffset
    omega

theorem take_under (h : lexer.PassesMark)
    (hreport : options.reportBadCharacters = lexer.options.reportBadCharacters) (count : Nat) :
    (lexer.under options).take count = (lexer.take count).map (Run.under options) := by
  induction count generalizing lexer with
  | zero => rfl
  | succ count ih =>
      obtain ⟨next, hnext⟩ := exists_step lexer
      obtain ⟨hpasses, hoptions⟩ := h.step hnext
      have hlater := ih hpasses (by rw [hreport, hoptions])
      simp only [take, h.step_under hreport, hnext, Except.map, bind, Except.bind, Step.under]
      split
      · rfl
      · rw [hlater]
        cases next.lexer.take count <;> rfl

end PassesMark

/-- A text that does not begin with a mark is lexed and logged in the same way whether or not a mark
would be accepted. -/
theorem tokenize_log_eq {text : List Char} {options others : Options}
    (hmark : text.head? ≠ some byteOrderMark)
    (hreport : others.reportBadCharacters = options.reportBadCharacters) :
    tokenize others text = tokenize options text ∧
      (ofText text others).log = (ofText text options).log := by
  have hpasses : (ofText text options).PassesMark := .inr hmark
  have hdrain : (ofText text others).drain =
      (ofText text options).drain.map (Run.under others) := hpasses.take_under hreport _
  obtain ⟨tokens, events, last, hreads, hlast, hrun⟩ := exists_reads_of_drain (ofText text options)
  have hpassesLast : last.PassesMark := .inr (by simp [hlast])
  obtain ⟨hend, hoptions⟩ := hpassesLast.step (step_of_rest_nil hlast)
  -- The log goes one step beyond the end mark.
  obtain ⟨mark, hmark⟩ := exists_step last.finish.lexer
  have hagain : (last.finish.lexer.under others).step = .ok (mark.under others) := by
    rw [hend.step_under (by rw [hoptions, hreads.options, hreport]; rfl), hmark]
    rfl
  constructor
  · simp [tokenize, hdrain, hrun, Except.map, bind, Except.bind, pure, Except.pure, Run.under,
      under]
  · simp [log, hdrain, hrun, pull_one hmark, pull_one hagain, Except.map, bind, Except.bind, pure,
      Except.pure, Run.under, Step.under]

end Lexer

/-! ## Two lexings of a text -/

/-- `quiet` says about a text what `loud` says, the bad characters apart. -/
structure Lexed.Silences (loud quiet : Lexed) : Prop where
  tokens_eq : quiet.tokens = loud.tokens
  finalFrames_eq : quiet.finalFrames = loud.finalFrames
  diagnostics_eq : quiet.diagnostics =
    loud.diagnostics.filter fun diagnostic => diagnostic.problem.isUnterminated

/-- `refused` says about a text what `accepted` says, but takes the mark at its start for a bad
character and the blanks behind the mark for white space of their own. -/
structure Lexed.RefusesMark (report : Bool) (blanks : Nat) (accepted refused : Lexed) : Prop where
  tokens_eq : ∃ later,
    accepted.tokens = ⟨.whitespace, ⟨0, 1 + blanks⟩, .initial, 0⟩ :: later ∧
    refused.tokens = ⟨.badCharacter, ⟨0, 1⟩, .initial, 0⟩ ::
      if blanks = 0 then later else ⟨.whitespace, ⟨1, blanks⟩, .initial, 0⟩ :: later
  finalFrames_eq : refused.finalFrames = accepted.finalFrames
  diagnostics_eq : refused.diagnostics =
    (if report then [Diagnostic.badCharacter byteOrderMark 0] else []) ++ accepted.diagnostics

namespace Lexer

/-- Reporting bad characters adds their reports and changes nothing else. -/
theorem tokenize_silences (accept : Bool) (text : List Char) :
    ∃ loud quiet, tokenize ⟨accept, true⟩ text = .ok loud ∧
      tokenize ⟨accept, false⟩ text = .ok quiet ∧ loud.Silences quiet := by
  obtain ⟨tokens, last, hreads, hlast, hloud⟩ := exists_reads_of_tokenize text ⟨accept, true⟩
  have hview : SameView (ofText text ⟨accept, true⟩) (ofText text ⟨accept, false⟩) :=
    ⟨rfl, rfl, rfl, rfl, rfl, rfl⟩
  obtain ⟨other, hother, hsame⟩ := hview.reads hreads
  have hend : other.cursor.rest = [] := by rw [hsame.rest_eq, hlast]
  have hstack := hsame.stack_finish
  have hfiltered := (filter_isUnterminated text ⟨accept, true⟩ tokens
    (withoutModifiers last.stack) last.offset).1
  refine ⟨_, _, hloud, hother.tokenize_eq hend, rfl, congrArg Stack.frames hstack, ?_⟩
  simp only [hreads.diagnostics_finish rfl, hother.diagnostics_finish rfl, reportsAhead,
    hreads.text, hreads.options, hother.text, hother.options, hsame.stack_eq, hsame.offset_eq]
  simp only [ofText, Cursor.text_ofText, List.nil_append]
  rw [hfiltered]
  simp [reports]

/-! ## Texts with a mark -/

section

variable (report : Bool) (rest : List Char)

/-- A lexer behind a mark at the start of its text and the blanks that follow it. -/
def behindMark (accept : Bool) (diagnostics : List Diagnostic) : Lexer :=
  ⟨(Cursor.ofText (byteOrderMark :: rest)).skip (1 + (rest.takeWhile isBlank).length), .initial,
    ⟨accept, report⟩, diagnostics, false⟩

/-- An accepted mark and the blanks behind it are read as one token. -/
theorem reads_acceptedMark :
    Reads (ofText (byteOrderMark :: rest) ⟨true, report⟩)
      [⟨.whitespace, ⟨0, 1 + (rest.takeWhile isBlank).length⟩, .initial, 0⟩]
      (behindMark report rest true []) :=
  .of_classify (ofText (byteOrderMark :: rest) ⟨true, report⟩) (List.cons_ne_nil _ _)
    (classify_acceptedMark rfl) rfl

/-- A refused mark and the blanks behind it are read as two tokens, or as one if there are no
blanks. -/
theorem reads_refusedMark :
    Reads (ofText (byteOrderMark :: rest) ⟨false, report⟩)
      ([⟨.badCharacter, ⟨0, 1⟩, .initial, 0⟩] ++
        if (rest.takeWhile isBlank).length = 0 then []
        else [⟨.whitespace, ⟨1, (rest.takeWhile isBlank).length⟩, .initial, 0⟩])
      (behindMark report rest false
        (if report then [Diagnostic.badCharacter byteOrderMark 0] else [])) := by
  have hmark := Reads.of_classify (ofText (byteOrderMark :: rest) ⟨false, report⟩)
    (List.cons_ne_nil _ _) (classify_refusedMark rfl) rfl
  have hreported : (ofText (byteOrderMark :: rest) ⟨false, report⟩).badCharacters
      (Match.plain .badCharacter 1) =
        if report then [Diagnostic.badCharacter byteOrderMark 0] else [] := by
    cases report <;> rfl
  rw [hreported] at hmark
  refine hmark.trans ?_
  rw [behindMark, ← Cursor.skip_skip]
  by_cases hblanks : (rest.takeWhile isBlank).length = 0
  · rw [if_pos hblanks, hblanks]
    exact .refl
  · rw [if_neg hblanks]
    have hrest : rest ≠ [] := fun hnil => hblanks (by rw [hnil]; rfl)
    have hwhite := Reads.of_classify
      ⟨⟨[byteOrderMark], rest⟩, .initial, ⟨false, report⟩,
        if report then [Diagnostic.badCharacter byteOrderMark 0] else [], false⟩
      hrest (classify_blanks (by simp) hblanks) rfl
    have hnone : ∀ lexer : Lexer, lexer.badCharacters
        (Match.plain .whitespace (rest.takeWhile isBlank).length) = [] := fun _ => rfl
    rw [hnone, List.append_nil] at hwhite
    exact hwhite

end

/-- A mark that is refused is a bad character, and behind the blanks that follow it the text is
lexed as if it had been accepted. -/
theorem tokenize_refusesMark (report : Bool) (rest : List Char) :
    ∃ accepted refused, tokenize ⟨true, report⟩ (byteOrderMark :: rest) = .ok accepted ∧
      tokenize ⟨false, report⟩ (byteOrderMark :: rest) = .ok refused ∧
      accepted.RefusesMark report (rest.takeWhile isBlank).length refused := by
  have hmark : ∀ accept, Scan.hasByteOrderMark ⟨(Cursor.ofText (byteOrderMark :: rest)).skip
      (1 + (rest.takeWhile isBlank).length), .initial, ⟨accept, report⟩⟩ = false := by
    have hlength := (List.takeWhile_prefix isBlank (l := rest)).length_le
    intro accept
    exact Scan.hasByteOrderMark_skip _ _ (by omega) (by simp [Cursor.ofText]; omega)
  -- Behind the blanks the two lexers see the same, so they read the same from there on.
  have hview : SameView (behindMark report rest true []) (behindMark report rest false
      (if report then [Diagnostic.badCharacter byteOrderMark 0] else [])) :=
    ⟨rfl, rfl, rfl, hmark false |>.trans (hmark true).symm, rfl, rfl⟩
  obtain ⟨later, events, last, hlater, hlast, -⟩ := exists_reads_of_drain
    (behindMark report rest true [])
  obtain ⟨other, hother, hsame⟩ := hview.reads hlater
  have haccepted := (reads_acceptedMark report rest).trans hlater
  have hrefused := (reads_refusedMark report rest).trans hother
  have hend : other.cursor.rest = [] := by rw [hsame.rest_eq, hlast]
  refine ⟨_, _, haccepted.tokenize_eq hlast, hrefused.tokenize_eq hend, ?_⟩
  exact {
    tokens_eq := by
      refine ⟨later, rfl, ?_⟩
      split <;> rfl
    finalFrames_eq := congrArg Stack.frames hsame.stack_finish
    diagnostics_eq := by
      have hahead : reportsAhead other later = reportsAhead last later := by
        rw [reportsAhead, reportsAhead, hsame.stack_eq, hsame.offset_eq, hother.text,
          hother.options, hlater.text, hlater.options]
        rfl
      simp only [hlater.diagnostics_finish rfl, hother.diagnostics_finish rfl, hahead]
      rfl }

end Lexer

/-- **Each option changes one thing.**  Without reports of bad characters only those reports are
missing.  Whether a byte-order mark is accepted makes no difference to a text that does not begin
with one; in front of a text that does, it decides between white space and a bad character, and what
lies behind the blanks that follow the mark is the same either way. -/
theorem tokenize_options (text : List Char) :
    (∀ accept, ∃ loud quiet, tokenize ⟨accept, true⟩ text = .ok loud ∧
      tokenize ⟨accept, false⟩ text = .ok quiet ∧ loud.Silences quiet) ∧
    (text.head? ≠ some byteOrderMark → ∀ report,
      tokenize ⟨false, report⟩ text = tokenize ⟨true, report⟩ text ∧
      (Lexer.ofText text ⟨false, report⟩).log = (Lexer.ofText text ⟨true, report⟩).log) ∧
    ∀ rest, text = byteOrderMark :: rest → ∀ report, ∃ accepted refused,
      tokenize ⟨true, report⟩ text = .ok accepted ∧
      tokenize ⟨false, report⟩ text = .ok refused ∧
      accepted.RefusesMark report (rest.takeWhile isBlank).length refused := by
  refine ⟨fun accept => Lexer.tokenize_silences accept text, ?_, ?_⟩
  · intro hmark report
    exact Lexer.tokenize_log_eq hmark rfl
  · rintro rest rfl report
    exact Lexer.tokenize_refusesMark report rest

/-- A mark behind a letter, and a mark in front of two blanks and an open string. -/
theorem tokenize_options_mark :
    (['x', '\uFEFF'].head? ≠ some byteOrderMark ∧
      tokenize ⟨false, true⟩ ['x', '\uFEFF'] = tokenize ⟨true, true⟩ ['x', '\uFEFF']) ∧
    ∃ accepted refused,
      tokenize ⟨true, true⟩ ['\uFEFF', ' ', '\t', '"'] = .ok accepted ∧
      tokenize ⟨false, true⟩ ['\uFEFF', ' ', '\t', '"'] = .ok refused ∧
      accepted.RefusesMark true 2 refused :=
  have hhead : ['x', '\uFEFF'].head? ≠ some byteOrderMark := by decide
  ⟨⟨hhead, ((tokenize_options ['x', '\uFEFF']).2.1 hhead true).1⟩,
    (tokenize_options ['\uFEFF', ' ', '\t', '"']).2.2 [' ', '\t', '"'] rfl true⟩

end ElixirLexer
