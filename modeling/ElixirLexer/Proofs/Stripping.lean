import Mathlib.Data.List.Chain
import ElixirLexer.Proofs.DepthCounters
import ElixirLexer.Proofs.Distinct
import ElixirLexer.Proofs.LineStarts
import ElixirLexer.Proofs.Lookahead
import ElixirLexer.Proofs.PlainHeredocs
import ElixirLexer.Proofs.Sight
import ElixirLexer.Proofs.Snapshots

/-!
# What is stripped from the lines of heredocs

The indentation that a token carries is a number of spaces and tabs at its head, so nothing but
these is missing from its value.  Only tokens that start a line carry any, where the start of a line
is what the table of lines says.  The rules themselves look at the character in front of them, and
to them a line also starts between a carriage return and its newline.  `KeepsBreaks` is the reason
why no heredoc is read there.

All this holds from every opening, also inside a heredoc whose recorded indentation, or whose quote,
no text could have led to.
-/

namespace ElixirLexer

/-! ## No heredoc is read in the middle of a line break -/

namespace Cursor

variable {cursor : Cursor}

theorem splitsBreak_of_rest_nil (h : cursor.rest = []) : cursor.splitsBreak = false := by
  simp [splitsBreak, first?, h]

/-- In the middle of a line break the rules see the start of a line. -/
theorem splitsBreak_of_atLineStart (h : cursor.atLineStart = false) :
    cursor.splitsBreak = false := by
  obtain ⟨before, rest⟩ := cursor
  cases before with
  | nil => rfl
  | cons c behind =>
      have hc : c ≠ '\r' := by
        rintro rfl
        simp [atLineStart] at h
      simp [splitsBreak, previous?, hc]

/-- Behind a line break that is taken as a whole no part of it is left. -/
theorem splitsBreak_skip_lineBreak (h : 0 < lineBreakLength cursor.rest) :
    (cursor.skip (lineBreakLength cursor.rest)).splitsBreak = false := by
  obtain ⟨before, rest⟩ := cursor
  cases rest with
  | nil => simp [lineBreakLength] at h
  | cons c behind =>
      have hbreak := (lineBreakLength_pos_iff c behind).mp h
      rcases lineBreakLength_cases hbreak behind with ⟨hone, hwhole⟩ | ⟨htwo, -, hhead⟩
      · simpa [skip, hone, splitsBreak, previous?, first?] using hwhole
      · obtain ⟨tail, rfl⟩ := List.head?_eq_some_iff.mp hhead
        simp [skip, htwo, splitsBreak, previous?]

/-- Behind the text of a line there is no line break. -/
theorem splitsBreak_skip_line {interpolating : Bool}
    (h : 0 < lineReach interpolating cursor.rest) :
    (cursor.skip (lineReach interpolating cursor.rest)).splitsBreak = false := by
  refine splitsBreak_of_atLineStart ?_
  rw [atLineStart_eq, text_skip, offset_skip (lineReach_le_length _ _)]
  rw [cursor.rest_eq_drop] at h ⊢
  exact startsLine_line h

end Cursor

namespace Reading

variable {cursor : Cursor} {mode next : Mode} {found : Match}

/-- Nothing that is opened is the body of a heredoc. -/
theorem isLined_of_push (h : Reading cursor mode found)
    (htransition : found.transition = .push next) : next.isLined = false := by
  cases h with
  | heredocOpening | quoteOpening | sigilOpening | groupInterpolation | heredocInterpolation =>
      obtain rfl := Transition.push.inj htransition
      rfl
  | _ => simp [Match.plain, Match.moving] at htransition

/-- The body of a heredoc is entered behind the break of its opening line. -/
theorem length_of_replace (h : Reading cursor mode found)
    (htransition : found.transition = .replace next) (hnext : next.isLined) :
    0 < lineBreakLength cursor.rest ∧ found.length = lineBreakLength cursor.rest := by
  cases h with
  | heredocOpeningEol hpos => exact ⟨hpos, rfl⟩
  | groupTerminator hdepth hrest =>
      obtain ⟨-, -, rfl⟩ := eq_of_closing_eq_replace htransition
      simp [Mode.isLined] at hnext
  | heredocTerminator hstart hwidth =>
      obtain ⟨-, -, rfl⟩ := eq_of_closing_eq_replace htransition
      simp [Mode.isLined] at hnext
  | groupBody hpos =>
      rw [Group.eq_of_deepened_eq_replace htransition] at hnext
      simp [Mode.isLined] at hnext
  | openBrace | closeBrace | sigilName | sigilHeredoc | sigilDelimiter =>
      obtain rfl := Transition.replace.inj htransition
      simp [Mode.isLined] at hnext
  | _ => simp [Match.plain, Match.moving] at htransition

/-- In the body of a heredoc line breaks are taken as a whole, and so is what stands between
them. -/
theorem splitsBreak_of_stay (h : Reading cursor mode found) (htransition : found.transition = .stay)
    (hmode : mode.isLined) : (cursor.skip found.length).splitsBreak = false := by
  cases mode with
  | heredocBody heredoc =>
      cases h with
      | heredocTerminator hstart hwidth =>
          simp only [closing] at htransition
          split at htransition <;> simp at htransition
      | heredocEol hpos hopen => exact Cursor.splitsBreak_skip_lineBreak hpos
      | heredocLine hpos hopen => exact Cursor.splitsBreak_skip_line hpos
      | heredocInterpolation => simp [Match.moving] at htransition
      | plain hcode | badCharacter hcode => simp [Mode.isCode] at hcode
      | heredocOpening | quoteOpening | sigilOpening => simp [Match.moving] at htransition
  | _ => simp [Mode.isLined] at hmode

/-- An interpolation is left behind its brace. -/
theorem splitsBreak_of_pop (h : Reading cursor mode found) (htransition : found.transition = .pop)
    (hmode : mode.isInterpolation) : (cursor.skip found.length).splitsBreak = false := by
  cases mode with
  | interpolation depth =>
      cases h with
      | interpolationEnd hrest =>
          simp [Cursor.skip, Match.moving, hrest, Cursor.splitsBreak, Cursor.previous?]
      | _ => simp [Match.plain, Match.moving] at htransition
  | _ => simp [Mode.isInterpolation] at hmode

end Reading

namespace Lexer

/-- The body of a heredoc is buried only by interpolations, and where it is on top no line break is
half read. -/
structure KeepsBreaks (lexer : Lexer) : Prop where
  buried : lexer.stack.above.IsChain fun upper lower =>
    lower.mode.isLined → upper.mode.isInterpolation
  whole : lexer.stack.top.mode.isLined → lexer.cursor.splitsBreak = false

namespace KeepsBreaks

variable {lexer next : Lexer} {gone kept : List Frame} {found : Match}

/-- Frames that give way uncover no body of a heredoc. -/
theorem reader_whole {step : Step} (h : KeepsBreaks lexer)
    (hreads : ReadsUnder lexer step gone kept found) (hmode : lexer.reader.mode.isLined) :
    lexer.cursor.splitsBreak = false := by
  obtain ⟨hburied, hwhole⟩ := h
  rw [hreads.above_eq] at hburied
  rw [hreads.reader_eq] at hmode
  rcases List.eq_nil_or_concat gone with rfl | ⟨others, upper, rfl⟩
  · refine hwhole ?_
    rwa [Stack.top, hreads.above_eq]
  · cases kept with
    | nil => simp [Stack.top, Mode.isLined] at hmode
    | cons lower below =>
        -- The frame that gives way would have to be an interpolation.
        have hupper := hreads.givesWay upper (by simp)
        have hinterpolation : upper.mode.isInterpolation :=
          (List.isChain_append.mp hburied).2.2 upper (by simp) lower rfl hmode
        cases hupper' : upper.mode with
        | interpolation depth =>
            rw [hupper'] at hupper
            cases hupper
        | _ => simp [hupper', Mode.isInterpolation] at hinterpolation

theorem moves {step : Step} (h : KeepsBreaks lexer)
    (hreads : ReadsUnder lexer step gone kept found) : KeepsBreaks step.lexer := by
  have hreader := hreads.reader_eq
  have happly := hreads.apply_eq
  have hreading := hreads.reading
  have hburied := h.buried
  rw [hreads.above_eq] at hburied
  replace hburied := hburied.right_of_append
  rw [hreader] at hreading
  cases htransition : found.transition with
  | stay =>
      rw [htransition] at happly
      replace happly : ⟨kept, lexer.stack.base⟩ = step.lexer.stack := Except.ok.inj happly
      refine ⟨by rwa [← happly], fun hlined => ?_⟩
      rw [← happly] at hlined
      rw [hreads.cursor_eq]
      exact hreading.splitsBreak_of_stay htransition hlined
  | push inner =>
      rw [htransition] at happly
      replace happly : Stack.push ⟨kept, lexer.stack.base⟩ ⟨inner, lexer.offset⟩ =
        step.lexer.stack := Except.ok.inj happly
      refine ⟨?_, fun hlined => ?_⟩
      · rw [← happly]
        refine List.isChain_cons.mpr ⟨fun lower hlower hlined => ?_, hburied⟩
        obtain ⟨-, ⟨-, hcode⟩ | ⟨hinterpolation, -⟩, -⟩ := hreading.opened_of_push htransition
        · -- A body of a heredoc is no code.
          obtain ⟨below, rfl⟩ := List.head?_eq_some_iff.mp hlower
          replace hcode : lower.mode.isCode = true := hcode
          cases hmode : lower.mode <;> simp [hmode, Mode.isCode, Mode.isLined] at hcode hlined
        · exact hinterpolation
      · rw [← happly] at hlined
        have hnone := hreading.isLined_of_push htransition
        rw [Stack.top_push, hnone] at hlined
        simp at hlined
  | pop =>
      rw [htransition] at happly
      obtain ⟨frame, hkept, -⟩ := Stack.exists_of_apply_pop happly
      replace hkept : kept = frame :: step.lexer.stack.above := hkept
      rw [hkept] at hburied hreading
      refine ⟨hburied.tail, fun hlined => ?_⟩
      rw [hreads.cursor_eq]
      refine hreading.splitsBreak_of_pop htransition ?_
      unfold Stack.top at hlined
      cases habove : step.lexer.stack.above with
      | nil => simp [habove, Mode.isLined] at hlined
      | cons lower below =>
          rw [habove] at hburied hlined
          exact (List.isChain_cons_cons.mp hburied).1 hlined
  | replace following =>
      rw [htransition] at happly
      obtain ⟨frame, below, hkept, hstack⟩ := Stack.exists_of_apply_replace happly
      replace hkept : kept = frame :: below := hkept
      rw [hkept] at hburied hreading
      rw [List.isChain_cons] at hburied
      have hsame := hreading.isInterpolation_of_replace htransition
      refine ⟨?_, fun hlined => ?_⟩
      · rw [hstack, List.isChain_cons]
        refine ⟨fun lower hlower hlined => ?_, hburied.2⟩
        exact hsame.trans (hburied.1 lower hlower hlined)
      · rw [hstack] at hlined
        obtain ⟨hpos, hlength⟩ := hreading.length_of_replace htransition hlined
        rw [hreads.cursor_eq, hlength]
        exact Cursor.splitsBreak_skip_lineBreak hpos

theorem finish (h : KeepsBreaks lexer) (hrest : lexer.cursor.rest = []) :
    KeepsBreaks lexer.finish.lexer := by
  have hcursor := finish_cursor lexer
  refine ⟨?_, fun _ => Cursor.splitsBreak_of_rest_nil (by rw [hcursor, hrest])⟩
  unfold Lexer.finish
  split
  · exact h.buried
  · exact h.buried.suffix (List.dropWhile_suffix _)

theorem step {step : Step} (h : KeepsBreaks lexer) (hstep : lexer.step = .ok step) :
    KeepsBreaks step.lexer := by
  by_cases hrest : lexer.cursor.rest = []
  · obtain rfl := Except.ok.inj ((step_of_rest_nil hrest).symm.trans hstep)
    exact h.finish hrest
  · obtain ⟨gone, kept, found, hreads⟩ := exists_readsUnder hrest hstep
    exact h.moves hreads

end KeepsBreaks

end Lexer

theorem Opening.keepsBreaks_start (opening : Opening) (text : List Char) :
    (opening.start text).KeepsBreaks where
  buried := by cases opening <;> simp [start, above]
  whole _ := rfl

/-! ## What a token shows -/

/-- What the indentation of a token says about its text and its place. -/
structure Emission.Strips (source : Source) (emission : Emission) : Prop where
  indent_le : emission.token.indent ≤ emission.token.span.length
  kind_of_pos : 0 < emission.token.indent →
    emission.token.kind = .heredocLine ∨ emission.token.kind = .heredocTerminator
  /-- Spaces and tabs are taken off, and what is left is the value. -/
  text_eq : ∃ blanks : List Char, blanks.length = emission.token.indent ∧
    (∀ c ∈ blanks, c = ' ' ∨ c = '\t') ∧
    source.slice emission.token.span = blanks ++ source.slice emission.token.valueSpan
  column_eq_one : 0 < emission.token.indent ∨ emission.token.kind = .heredocTerminator →
    (source.position emission.token.span.start).column = 1
  /-- A heredoc is closed by three quotes of its own. -/
  terminator : emission.token.kind = .heredocTerminator →
    ∃ heredoc, emission.frame.mode = .heredocBody heredoc ∧
      source.slice emission.token.valueSpan = [heredoc.quote, heredoc.quote, heredoc.quote]
  /-- What starts a line of a heredoc and does not close it could not have closed it. -/
  line : emission.token.kind = .heredocLine →
    ∃ heredoc, emission.frame.mode = .heredocBody heredoc ∧
      ((source.position emission.token.span.start).column = 1 →
        beginsWithMarker heredoc.quote
          ((source.slice emission.token.span).dropWhile isIndent) = false)

section

variable {cursor : Cursor} {mode : Mode} {found : Match}

/-- Only two readings strip anything, and both are of the body of a heredoc. -/
theorem Reading.stripped_cases (h : Reading cursor mode found) :
    (found.indent = 0 ∧ found.kind ≠ .heredocLine ∧ found.kind ≠ .heredocTerminator) ∨
      ∃ heredoc, mode = .heredocBody heredoc ∧
        (found.kind = .heredocTerminator ∧ cursor.atLineStart ∧
            terminatorIndent? heredoc.quote cursor.rest = some found.indent ∧
            found.length = found.indent + 3 ∨
          found.kind = .heredocLine ∧ cursor.startsTerminator heredoc.quote = false ∧
            found.indent = if cursor.atLineStart then
              indentWidth (cursor.rest.take (min found.length heredoc.indent)) else 0) := by
  cases h with
  | heredocTerminator hstart hwidth => exact .inr ⟨_, rfl, .inl ⟨rfl, hstart, hwidth, rfl⟩⟩
  | heredocLine hpos hopen => exact .inr ⟨_, rfl, .inr ⟨rfl, hopen, rfl⟩⟩
  | @plain mode kind length hmode hkind hpos hle hbrace =>
      refine .inl ⟨rfl, ?_, ?_⟩ <;> rintro rfl <;> simp [Kind.isPlain] at hkind
  | @quoteOpening mode quote literal tail hmode hquote hrest hsingle =>
      cases literal <;> simp [Match.moving, Literal.promoterKind]
  | @groupTerminator group tail hdepth hrest =>
      cases group.literal <;> simp [Match.moving, Literal.terminatorKind]
  | @groupBody group hpos =>
      cases group.literal <;> simp [Match.moving, Literal.bodyKind]
  | _ => simp [Match.plain, Match.moving]

theorem slice_of_cursor (cursor : Cursor) (length : Nat) :
    (Source.ofList cursor.text).slice ⟨cursor.offset, length⟩ = cursor.rest.take length := by
  rw [cursor.rest_eq_drop]
  rfl

theorem slice_value_of_cursor (cursor : Cursor) (length indent : Nat) :
    (Source.ofList cursor.text).slice ⟨cursor.offset + indent, length - indent⟩ =
      (cursor.rest.take length).drop indent := by
  rw [cursor.rest_eq_drop, List.drop_take, List.drop_drop]
  rfl

/-- What is counted as indentation is a run of spaces and tabs. -/
theorem take_indentWidth (text : List Char) :
    text.take (indentWidth text) = text.takeWhile isIndent :=
  (List.prefix_iff_eq_take.mp (List.takeWhile_prefix isIndent)).symm

theorem isIndent_of_mem_take_indentWidth (text : List Char) :
    ∀ c ∈ text.take (indentWidth text), isIndent c := by
  rw [take_indentWidth]
  exact List.all_eq_true.mp List.all_takeWhile

/-- What a reading strips is spaces and tabs. -/
theorem Reading.isIndent_of_stripped (h : Reading cursor mode found) :
    ∀ c ∈ cursor.rest.take found.indent, isIndent c := by
  rcases h.stripped_cases with ⟨hzero, -⟩ | ⟨heredoc, -, ⟨-, -, hwidth, -⟩ | ⟨-, -, hindent⟩⟩
  · simp [hzero]
  · rw [(eq_of_terminatorIndent? hwidth).1]
    exact isIndent_of_mem_take_indentWidth cursor.rest
  · split at hindent
    · generalize hcount : min found.length heredoc.indent = count at hindent
      have hblanks := isIndent_of_mem_take_indentWidth (cursor.rest.take count)
      rwa [List.take_take, Nat.min_eq_left (indentWidth_take_le count cursor.rest),
        ← hindent] at hblanks
    · simp [hindent]

/-- Only where a line starts is anything stripped or a heredoc closed. -/
theorem Reading.atLineStart_of_stripped (h : Reading cursor mode found)
    (hstripped : 0 < found.indent ∨ found.kind = .heredocTerminator) :
    cursor.atLineStart ∧ mode.isLined := by
  rcases h.stripped_cases with ⟨hzero, -, hkind⟩ |
    ⟨heredoc, rfl, ⟨-, hstart, -⟩ | ⟨hkind, -, hindent⟩⟩
  · rcases hstripped with hpos | hclosed
    · omega
    · exact absurd hclosed hkind
  · exact ⟨hstart, rfl⟩
  · refine ⟨?_, rfl⟩
    by_contra hstart
    rw [if_neg hstart] at hindent
    rcases hstripped with hpos | hclosed
    · omega
    · simp [hkind] at hclosed

/-- A heredoc is closed by three of its quotes behind the indentation. -/
theorem drop_of_terminatorIndent? {quote : Char} {text : List Char} {width : Nat}
    (h : terminatorIndent? quote text = some width) :
    (text.take (width + 3)).drop width = [quote, quote, quote] := by
  obtain ⟨rfl, tail, htail⟩ := eq_of_terminatorIndent? h
  have hdrop : text.drop (indentWidth text) = quote :: quote :: quote :: tail := by
    have hbehind := congrArg (List.drop (indentWidth text)) htail
    rwa [indentWidth, List.drop_left] at hbehind
  rw [List.drop_take, Nat.add_sub_cancel_left, hdrop]
  rfl

/-- What stands behind the indentation of a part of a text stands behind that of the text. -/
theorem beginsWithMarker_of_take {quote : Char} {text : List Char} {count : Nat}
    (h : beginsWithMarker quote ((text.take count).dropWhile isIndent) = true) :
    beginsWithMarker quote (text.dropWhile isIndent) = true := by
  obtain ⟨tail, htail⟩ := beginsWithMarker_iff.mp h
  refine beginsWithMarker_iff.mpr ⟨tail ++ text.drop count, ?_⟩
  conv => lhs; rw [← List.take_append_drop count text]
  rw [List.dropWhile_append, htail]
  rfl

/-- What a reading strips, and where. -/
theorem Reading.strips {frame : Frame} {state : ModeId} (h : Reading cursor frame.mode found)
    (hfits : found.Fits cursor.rest.length)
    (hwhole : frame.mode.isLined → cursor.splitsBreak = false) :
    Emission.Strips (Source.ofList cursor.text)
      ⟨frame, ⟨found.kind, ⟨cursor.offset, found.length⟩, state, found.indent⟩⟩ where
  indent_le := hfits.indent_le
  kind_of_pos hpos := by
    rcases h.stripped_cases with ⟨hzero, -⟩ | ⟨-, -, ⟨hkind, -⟩ | ⟨hkind, -⟩⟩
    · exact absurd hpos (Nat.not_lt.mpr (Nat.le_of_eq hzero))
    · exact .inr hkind
    · exact .inl hkind
  text_eq := by
    have hle := hfits.indent_le
    have hlength := Nat.le_trans hfits.length_le hfits.extent_le
    refine ⟨cursor.rest.take found.indent,
      List.length_take_of_le (Nat.le_trans hle hlength), ?_, ?_⟩
    · intro c hc
      simpa [isIndent] using h.isIndent_of_stripped c hc
    · rw [Token.valueSpan, slice_of_cursor, slice_value_of_cursor]
      have hsplit := List.take_append_drop found.indent (cursor.rest.take found.length)
      rw [List.take_take, Nat.min_eq_left hle] at hsplit
      exact hsplit.symm
  column_eq_one hstripped := by
    obtain ⟨hstart, hlined⟩ := h.atLineStart_of_stripped hstripped
    exact cursor.column_eq_one_iff.mpr ⟨hstart, hwhole hlined⟩
  terminator hkind := by
    replace hkind : found.kind = .heredocTerminator := hkind
    rcases h.stripped_cases with ⟨-, -, hother⟩ |
      ⟨heredoc, hmode, ⟨-, -, hwidth, hlength⟩ | ⟨hother, -⟩⟩
    · exact absurd hkind hother
    · refine ⟨heredoc, hmode, ?_⟩
      rw [Token.valueSpan, slice_value_of_cursor, hlength]
      exact drop_of_terminatorIndent? hwidth
    · simp [hkind] at hother
  line hkind := by
    replace hkind : found.kind = .heredocLine := hkind
    rcases h.stripped_cases with ⟨-, hother, -⟩ | ⟨heredoc, hmode, ⟨hother, -⟩ | ⟨-, hopen, -⟩⟩
    · exact absurd hkind hother
    · simp [hkind] at hother
    · refine ⟨heredoc, hmode, fun hcolumn => ?_⟩
      have hstart := (cursor.column_eq_one_iff.mp hcolumn).1
      rw [slice_of_cursor]
      by_contra hmarker
      rw [Bool.not_eq_false] at hmarker
      simp [Cursor.startsTerminator, hstart, terminatorIndent?,
        beginsWithMarker_of_take hmarker] at hopen

end

/-! ## Runs -/

namespace Lexer

variable {text : List Char} {lexer : Lexer} {next : Step}

/-- A step keeps the text. -/
theorem text_of_step (hstep : lexer.step = .ok next) :
    next.lexer.cursor.text = lexer.cursor.text := by
  by_cases hrest : lexer.cursor.rest = []
  · obtain rfl := Except.ok.inj ((step_of_rest_nil hrest).symm.trans hstep)
    rw [finish_cursor]
  · exact (moves_of_step hrest hstep).text

/-- An end mark strips nothing. -/
theorem strips_endMark (source : Source) (frame : Frame) (offset : Nat) (state : ModeId) :
    Emission.Strips source ⟨frame, Token.endMark offset state⟩ where
  indent_le := Nat.le_refl 0
  kind_of_pos hpos := absurd hpos (Nat.lt_irrefl 0)
  text_eq := ⟨[], rfl, by simp, rfl⟩
  column_eq_one hstripped := by simp [Token.endMark] at hstripped
  terminator hkind := by simp [Token.endMark] at hkind
  line hkind := by simp [Token.endMark] at hkind

theorem KeepsBreaks.strips (h : KeepsBreaks lexer) (hstep : lexer.step = .ok next) :
    Emission.Strips (Source.ofList lexer.cursor.text) ⟨lexer.reader, next.token⟩ := by
  by_cases hrest : lexer.cursor.rest = []
  · obtain rfl := Except.ok.inj ((step_of_rest_nil hrest).symm.trans hstep)
    rw [finish_token]
    exact strips_endMark _ _ _ _
  · obtain ⟨gone, kept, found, hreads⟩ := exists_readsUnder hrest hstep
    rw [hreads.token_eq]
    exact hreads.reading.strips hreads.fits (h.reader_whole hreads)

end Lexer

/-- **Stripping takes off indentation and nothing else.**  A new lexer gives any number of tokens,
and each of them with its indentation and the heredoc that it was read in is as `Emission.Strips`
says: the lexer may be opened in plain code or in any mode, with any context. -/
theorem pull_strips (text : List Char) (opening : Opening) (hopening : opening ≠ .inside .initial) :
    ∃ start, opening.lexer text = .ok start ∧ ∀ count, ∃ run, start.pull count = .ok run ∧
      (start.emissions count).map Emission.token = run.tokens ∧
      ∀ emission ∈ start.emissions count, emission.Strips (Source.ofList text) := by
  refine ⟨opening.start text, opening.lexer_eq_start text hopening, fun count => ?_⟩
  obtain ⟨run, hrun⟩ := Lexer.exists_pull count (opening.start text)
  refine ⟨run, hrun, Lexer.map_token_emissions hrun, ?_⟩
  have hkeeps (lexer : Lexer) (next : Step)
      (h : lexer.KeepsBreaks ∧ lexer.cursor.text = text) (hstep : lexer.step = .ok next) :
      (next.lexer.KeepsBreaks ∧ next.lexer.cursor.text = text) ∧
        Emission.Strips (Source.ofList text) ⟨lexer.reader, next.token⟩ := by
    obtain ⟨hbreaks, rfl⟩ := h
    exact ⟨⟨hbreaks.step hstep, Lexer.text_of_step hstep⟩, hbreaks.strips hstep⟩
  exact Lexer.forall_emissions hkeeps count
    ⟨opening.keepsBreaks_start text, Cursor.text_ofText text⟩

/-- A heredoc entered with more indentation recorded than any of its lines has.  The line is
stripped of the three blanks it has, and the closing line of its tab. -/
theorem pull_strips_shortLine :
    let opening := Opening.inside (.heredocBody ⟨.string, '"', true, 7⟩)
    let text := "   a\r\n\t\"\"\"x".toList
    opening ≠ .inside .initial ∧ ∃ start run, opening.lexer text = .ok start ∧
      start.pull 3 = .ok run ∧ run.tokens.map Token.indent = [3, 0, 1] ∧
      ∀ emission ∈ start.emissions 3, emission.Strips (Source.ofList text) := by
  intro opening text
  have hopening : opening ≠ .inside .initial := by simp [opening]
  obtain ⟨start, hstart, hruns⟩ := pull_strips text opening hopening
  obtain ⟨run, hrun, -, hstrips⟩ := hruns 3
  refine ⟨hopening, start, run, hstart, hrun, ?_, hstrips⟩
  have hindents : ((opening.start text).pull 3).toOption.map (fun run =>
      run.tokens.map Token.indent) = some [3, 0, 1] := by decide +kernel
  obtain rfl := Except.ok.inj ((opening.lexer_eq_start text hopening).symm.trans hstart)
  rw [hrun] at hindents
  exact Option.some.inj hindents

end ElixirLexer
