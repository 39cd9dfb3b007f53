import Mathlib.Algebra.GroupWithZero.Nat
import ElixirLexer.Proofs.Delimiters
import ElixirLexer.Proofs.HeredocIndent
import ElixirLexer.Proofs.Lines

/-!
# Heredocs without interpolations

Where no interpolation begins in it a heredoc is read line by line: the rest of the line that opens
it, the lines of its body without the indentation of the line that closes it, and the three quotes
on that line.  The tokens are those that cutting the text into lines suggests
(`tokenize_plainHeredoc`).  The search for the closing line looks ahead over all of them once, and
then each line is read by its own rules, so both have to agree on where the lines end and which of
them closes the heredoc.

Nothing is said about what follows the three quotes on the line that closes a heredoc, nor about
heredocs that are interrupted by interpolations.
-/

namespace ElixirLexer

/-! ## The tokens of lines -/

namespace Line

/-- The token of the text of a line that starts at `start`. -/
def textTokens (kind : Kind) (state : ModeId) (indent start : Nat) (line : Line) : List Token :=
  if line.text = [] then [] else [⟨kind, ⟨start, line.text.length⟩, state, indent⟩]

/-- The token of its break. -/
def breakTokens (start : Nat) (line : Line) : List Token :=
  if line.ending = [] then []
  else [⟨.eol, ⟨start + line.text.length, line.ending.length⟩, .heredocBody, 0⟩]

/-- The tokens of the line that opens a heredoc, from the place behind the quotes on. -/
def openingTokens (start : Nat) (line : Line) : List Token :=
  line.textTokens .heredocTrailing .heredocOpen 0 start ++ line.breakTokens start

/-- The tokens of a line in the body of a heredoc that takes off `width` spaces and tabs. -/
def bodyTokens (width start : Nat) (line : Line) : List Token :=
  line.textTokens .heredocLine .heredocBody (min (indentWidth line.text) width) start ++
    line.breakTokens start

end Line

/-- The tokens of successive lines in the body of a heredoc. -/
def bodyTokens (width start : Nat) : List Line → List Token
  | [] => []
  | line :: later => line.bodyTokens width start ++ bodyTokens width (start + line.length) later

/-- The tokens of a heredoc behind its opening quotes and in front of its closing line. -/
def heredocTokens (quote : Char) (start : Nat) (opening : Line) (lines : List Line) : List Token :=
  opening.openingTokens start ++
    bodyTokens (closingWidth quote lines) (start + opening.length) (openLines quote lines)

/-- The number of characters of these tokens. -/
def heredocLength (quote : Char) (opening : Line) (lines : List Line) : Nat :=
  opening.length + ((openLines quote lines).map Line.length).sum

/-- The tokens `later` begin with those of the lines of a heredoc, whose opening quotes stop at
`start`.  Behind the lines stands the terminator, or the text ends and the heredoc is reported. -/
def Lexed.ReadsByLines (lexed : Lexed) (heredoc : Pending) (quote : Char) (start : Nat)
    (opening : Line) (lines : List Line) (later : List Token) : Prop :=
  match closingLine? quote lines with
  | some last => ∃ state more, later = heredocTokens quote start opening lines ++
      ⟨.heredocTerminator,
        ⟨start + heredocLength quote opening lines, indentWidth last.text + 3⟩, state,
        indentWidth last.text⟩ :: more
  | none => later = heredocTokens quote start opening lines ∧
      ⟨.unterminatedHeredoc, lexed.source.length, heredoc.start⟩ ∈ lexed.diagnostics

/-! ## Readings in a heredoc -/

section

variable {cursor : Cursor} {mode : Mode} {heredoc : Heredoc} {found : Match}

theorem Reading.heredocOpen_cases (h : Reading cursor (.heredocOpen heredoc) found) :
    (firstLine cursor.rest).text ≠ [] ∧
      found = Match.plain .heredocTrailing (firstLine cursor.rest).text.length ∨
    0 < lineBreakLength cursor.rest ∧ found = Match.moving .eol (lineBreakLength cursor.rest)
      (.replace (.heredocBody { heredoc with
        indent := closingIndent heredoc.quote heredoc.interpolating 0 true
          (cursor.rest.drop (lineBreakLength cursor.rest)) })) := by
  cases h with
  | heredocTrailing hpos => exact .inl ⟨List.length_pos_iff.mp hpos, rfl⟩
  | heredocOpeningEol hpos => exact .inr ⟨hpos, rfl⟩
  | plain hmode | badCharacter hmode | heredocOpening hmode | quoteOpening hmode
  | sigilOpening hmode => simp [Mode.isCode] at hmode

theorem Reading.heredocBody_cases (h : Reading cursor (.heredocBody heredoc) found) :
    (∃ width, cursor.atLineStart ∧
      terminatorIndent? heredoc.quote cursor.rest = some width ∧
      found = ⟨.heredocTerminator, width + 3, width + 3, width,
        closing heredoc.literal (cursor.rest.drop (width + 3))⟩) ∨
    cursor.startsTerminator heredoc.quote = false ∧
      (0 < lineBreakLength cursor.rest ∧
          found = Match.plain .eol (lineBreakLength cursor.rest) ∨
        (heredoc.interpolating ∧ ∃ tail, cursor.rest = '#' :: '{' :: tail) ∨
        0 < lineReach heredoc.interpolating cursor.rest ∧
          found = ⟨.heredocLine, lineReach heredoc.interpolating cursor.rest,
            lineReach heredoc.interpolating cursor.rest,
            if cursor.atLineStart then
              indentWidth (cursor.rest.take
                (min (lineReach heredoc.interpolating cursor.rest) heredoc.indent))
            else 0,
            .stay⟩) := by
  cases h with
  | heredocTerminator hstart hwidth => exact .inl ⟨_, hstart, hwidth, rfl⟩
  | heredocEol hpos hopen => exact .inr ⟨hopen, .inl ⟨hpos, rfl⟩⟩
  | heredocInterpolation hinterpolating hrest hopen =>
      exact .inr ⟨hopen, .inr (.inl ⟨hinterpolating, _, hrest⟩)⟩
  | heredocLine hpos hopen => exact .inr ⟨hopen, .inr (.inr ⟨hpos, rfl⟩)⟩
  | plain hmode | badCharacter hmode | heredocOpening hmode | quoteOpening hmode
  | sigilOpening hmode => simp [Mode.isCode] at hmode

/-- Behind three quotes a heredoc waits for the rest of its opening line. -/
theorem Reading.heredocPromoter_cases (h : Reading cursor mode found)
    (hkind : found.kind = .heredocPromoter) : ∃ literal quote interpolating,
      (quotedLiteral? quote).isSome ∧
      (found.transition = .push (.heredocOpen (Heredoc.opened literal quote interpolating)) ∨
        found.transition =
          .replace (.heredocOpen (Heredoc.opened literal quote interpolating))) := by
  cases h with
  | heredocOpening hmode hquote hrest =>
      exact ⟨_, _, _, by simp [hquote], .inl rfl⟩
  | sigilHeredoc hquote hrest => exact ⟨_, _, _, by simp [hquote], .inr rfl⟩
  | @plain mode kind length hmode hplain =>
      replace hkind : kind = .heredocPromoter := hkind
      simp [hkind, Kind.isPlain] at hplain
  | @quoteOpening mode quote literal =>
      cases literal <;> simp [Match.moving, Literal.promoterKind] at hkind
  | @groupTerminator group =>
      cases hliteral : group.literal <;>
        simp [Match.moving, Literal.terminatorKind, hliteral] at hkind
  | @groupBody group =>
      cases hliteral : group.literal <;> simp [Match.moving, Literal.bodyKind, hliteral] at hkind
  | _ => simp [Match.plain, Match.moving] at hkind

end

/-! ## Moving over a line -/

namespace Cursor

variable {cursor : Cursor}

/-- The token of the line break ahead, if there is one. -/
def breakTokens (cursor : Cursor) : List Token :=
  if lineBreakLength cursor.rest = 0 then []
  else [⟨.eol, ⟨cursor.offset, lineBreakLength cursor.rest⟩, .heredocBody, 0⟩]

theorem rest_skip_text (cursor : Cursor) :
    (cursor.skip (firstLine cursor.rest).text.length).rest =
      (firstLine cursor.rest).ending ++ behindLine cursor.rest :=
  drop_firstLine cursor.rest

theorem lineBreakLength_skip_text (cursor : Cursor) :
    lineBreakLength (cursor.skip (firstLine cursor.rest).text.length).rest =
      (firstLine cursor.rest).ending.length := by
  rw [rest_skip_text, lineBreakLength_ending]

/-- Behind its text a line has only its break. -/
theorem breakTokens_skip_text (cursor : Cursor) :
    (cursor.skip (firstLine cursor.rest).text.length).breakTokens =
      (firstLine cursor.rest).breakTokens cursor.offset := by
  have hoffset : (cursor.skip (firstLine cursor.rest).text.length).offset = _ :=
    offset_skip (List.takeWhile_prefix _).length_le
  simp [breakTokens, Line.breakTokens, lineBreakLength_skip_text, hoffset]

theorem skip_line (cursor : Cursor) :
    cursor.skip (firstLine cursor.rest).length =
      (cursor.skip (firstLine cursor.rest).text.length).skip
        (lineBreakLength (cursor.skip (firstLine cursor.rest).text.length).rest) := by
  rw [lineBreakLength_skip_text, skip_skip, Line.length]

theorem rest_skip_line (cursor : Cursor) :
    (cursor.skip (firstLine cursor.rest).length).rest = behindLine cursor.rest := by
  rw [skip_line, lineBreakLength_skip_text]
  show ((cursor.skip _).rest).drop _ = _
  rw [rest_skip_text, List.drop_left]

theorem offset_skip_line (cursor : Cursor) :
    (cursor.skip (firstLine cursor.rest).length).offset =
      cursor.offset + (firstLine cursor.rest).length := by
  refine offset_skip ?_
  have hlength := congrArg List.length (firstLine_append cursor.rest)
  simp only [List.length_append] at hlength
  unfold Line.length
  omega

/-- A line starts behind a line break. -/
theorem atLineStart_skip_lineBreak (h : 0 < lineBreakLength cursor.rest) :
    (cursor.skip (lineBreakLength cursor.rest)).atLineStart = true := by
  rw [atLineStart_eq, text_skip, offset_skip (lineBreakLength_le_length _)]
  rw [rest_eq_drop] at h ⊢
  exact startsLine_lineBreak h

theorem atLineStart_skip_line (h : (firstLine cursor.rest).ending ≠ []) :
    (cursor.skip (firstLine cursor.rest).length).atLineStart = true := by
  rw [skip_line]
  refine atLineStart_skip_lineBreak ?_
  rw [lineBreakLength_skip_text]
  exact List.length_pos_iff.mpr h

end Cursor

/-! ## Reading lines -/

namespace Lexer

section

variable {start : Lexer} {stack : Stack} {heredoc : Heredoc} {openedAt : Nat}

/-- In a mode that does not give way there is something to read, and it is read. -/
theorem Reads.exists_of_mode {mode : Mode} (hstack : start.stack = stack.push ⟨mode, openedAt⟩)
    (hmode : mode.isTransient = false) (hrest : start.cursor.rest ≠ []) :
    ∃ found, Reading start.cursor mode found ∧ (found.kind ≠ .badCharacter → ∀ next,
      (stack.push ⟨mode, openedAt⟩).apply found.transition start.offset = .ok next →
        Reads start [⟨found.kind, ⟨start.offset, found.length⟩, next.top.mode.id, found.indent⟩]
          { start with cursor := start.cursor.skip found.length, stack := next }) := by
  obtain ⟨found, hclass, hreading⟩ := exists_reading start.options hrest hmode
  refine ⟨found, hreading, fun hkind next happly => ?_⟩
  rw [← hstack] at happly
  refine Reads.of_classify_of_ne start hrest hkind ?_ happly
  rw [hstack]
  exact hclass

theorem Reads.nothing (hstack : start.stack = stack) :
    Reads start [] { start with cursor := start.cursor.skip 0, stack } := by
  subst hstack
  exact .refl

/-! ### The opening line -/

theorem Reads.trailing (hstack : start.stack = stack.push ⟨.heredocOpen heredoc, openedAt⟩) :
    Reads start
      ((firstLine start.cursor.rest).textTokens .heredocTrailing .heredocOpen 0 start.offset)
      { start with
        cursor := start.cursor.skip (firstLine start.cursor.rest).text.length
        stack := stack.push ⟨.heredocOpen heredoc, openedAt⟩ } := by
  unfold Line.textTokens
  split
  · next htext =>
      rw [htext]
      exact .nothing hstack
  · next htext =>
      obtain ⟨found, hreading, hreads⟩ :=
        Reads.exists_of_mode hstack rfl (ne_nil_of_firstLine_text htext)
      rcases hreading.heredocOpen_cases with ⟨-, rfl⟩ | ⟨hbreak, -⟩
      · exact hreads (by simp [Match.plain]) _ rfl
      · exact absurd (firstLine_text_of_lineBreak hbreak) htext

/-- Behind its opening line the body of a heredoc begins, with the indentation that the search
finds. -/
theorem Reads.openingBreak (hstack : start.stack = stack.push ⟨.heredocOpen heredoc, openedAt⟩) :
    Reads start start.cursor.breakTokens
      { start with
        cursor := start.cursor.skip (lineBreakLength start.cursor.rest)
        stack := stack.push ⟨
          if lineBreakLength start.cursor.rest = 0 then .heredocOpen heredoc
          else .heredocBody { heredoc with
            indent := closingIndent heredoc.quote heredoc.interpolating 0 true
              (start.cursor.rest.drop (lineBreakLength start.cursor.rest)) }, openedAt⟩ } := by
  unfold Cursor.breakTokens
  split
  · next hnone =>
      rw [hnone]
      exact .nothing hstack
  · next hsome =>
      have hbreak := Nat.pos_of_ne_zero hsome
      obtain ⟨found, hreading, hreads⟩ :=
        Reads.exists_of_mode hstack rfl (ne_nil_of_lineBreak hbreak)
      rcases hreading.heredocOpen_cases with ⟨htext, -⟩ | ⟨-, rfl⟩
      · exact absurd (firstLine_text_of_lineBreak hbreak) htext
      · exact hreads (by simp [Match.moving]) _ rfl

/-- The opening line is read as its text and its break, and without a break it is the last. -/
theorem Reads.openingLine (hstack : start.stack = stack.push ⟨.heredocOpen heredoc, openedAt⟩) :
    Reads start ((firstLine start.cursor.rest).openingTokens start.offset)
      { start with
        cursor := start.cursor.skip (firstLine start.cursor.rest).length
        stack := stack.push ⟨
          if (firstLine start.cursor.rest).ending = [] then .heredocOpen heredoc
          else .heredocBody { heredoc with
            indent := closingIndent heredoc.quote heredoc.interpolating 0 true
              (behindLine start.cursor.rest) }, openedAt⟩ } := by
  have hbreak := (Reads.trailing hstack).trans (Reads.openingBreak rfl)
  simp only [Cursor.breakTokens_skip_text, ← Cursor.skip_line] at hbreak
  simp only [Cursor.rest_skip_text, lineBreakLength_ending, List.drop_left,
    List.length_eq_zero_iff] at hbreak
  exact hbreak

/-! ### The lines of the body -/

theorem Reads.lineBreak (hstack : start.stack = stack.push ⟨.heredocBody heredoc, openedAt⟩)
    (hquote : isLineBreak heredoc.quote = false) :
    Reads start start.cursor.breakTokens
      { start with
        cursor := start.cursor.skip (lineBreakLength start.cursor.rest)
        stack := stack.push ⟨.heredocBody heredoc, openedAt⟩ } := by
  unfold Cursor.breakTokens
  split
  · next hnone =>
      rw [hnone]
      exact .nothing hstack
  · next hsome =>
      have hbreak := Nat.pos_of_ne_zero hsome
      have hend := atLineEnd_of_lineBreak hbreak
      obtain ⟨found, hreading, hreads⟩ :=
        Reads.exists_of_mode hstack rfl (ne_nil_of_lineBreak hbreak)
      rcases hreading.heredocBody_cases with
        ⟨width, -, hwidth, -⟩ | ⟨-, ⟨-, rfl⟩ | ⟨-, tail, hhash⟩ | ⟨hpos, -⟩⟩
      · simp [hend.terminatorIndent?_eq_none hquote] at hwidth
      · exact hreads (by simp [Match.plain]) _ rfl
      · simp [hhash, AtLineEnd, isLineBreak] at hend
      · simp [hend.lineReach_eq_zero] at hpos

section

variable (hstack : start.stack = stack.push ⟨.heredocBody heredoc, openedAt⟩)
  (hquote : isLineBreak heredoc.quote = false) (hstart : start.cursor.atLineStart)

include hstack hquote hstart

/-- A line that does not close the heredoc and is not interrupted is read up to its break. -/
theorem Reads.lineText (hopen : (firstLine start.cursor.rest).closes heredoc.quote = false)
    (hplain : heredoc.interpolating → ¬ (firstLine start.cursor.rest).IsInterrupted) :
    Reads start
      ((firstLine start.cursor.rest).textTokens .heredocLine .heredocBody
        (min (indentWidth (firstLine start.cursor.rest).text) heredoc.indent) start.offset)
      { start with
        cursor := start.cursor.skip (firstLine start.cursor.rest).text.length
        stack := stack.push ⟨.heredocBody heredoc, openedAt⟩ } := by
  unfold Line.textTokens
  split
  · next htext =>
      rw [htext]
      exact .nothing hstack
  · next htext =>
      have hreach := lineReach_eq hplain
      have hpos := List.length_pos_iff.mpr htext
      obtain ⟨found, hreading, hreads⟩ :=
        Reads.exists_of_mode hstack rfl (ne_nil_of_firstLine_text htext)
      rcases hreading.heredocBody_cases with
        ⟨width, -, hwidth, -⟩ | ⟨-, ⟨hbreak, -⟩ | ⟨hinterpolating, tail, hhash⟩ | ⟨-, rfl⟩⟩
      · simp [terminatorIndent?_eq hquote, hopen] at hwidth
      · exact absurd (firstLine_text_of_lineBreak hbreak) htext
      · rw [hinterpolating, hhash, lineReach_interpolation, ← hhash] at hreach
        exact absurd hreach (Nat.ne_of_lt hpos)
      · have hline := hreads (by simp) _ rfl
        simp only [hreach, hstart, if_true, indentWidth_take_min, take_firstLine] at hline
        exact hline

/-- A line is read as its text and its break, as far as it has them. -/
theorem Reads.line (hopen : (firstLine start.cursor.rest).closes heredoc.quote = false)
    (hplain : heredoc.interpolating → ¬ (firstLine start.cursor.rest).IsInterrupted) :
    Reads start ((firstLine start.cursor.rest).bodyTokens heredoc.indent start.offset)
      { start with
        cursor := start.cursor.skip (firstLine start.cursor.rest).length
        stack := stack.push ⟨.heredocBody heredoc, openedAt⟩ } := by
  have hbreak :=
    (Reads.lineText hstack hquote hstart hopen hplain).trans (Reads.lineBreak rfl hquote)
  simp only [Cursor.breakTokens_skip_text, ← Cursor.skip_line] at hbreak
  exact hbreak

/-- The lines in front of the one that closes the heredoc are read one after the other. -/
theorem Reads.lines {lines : List Line} (hlines : splitLines start.cursor.rest = lines)
    (hplain : heredoc.interpolating → ∀ line ∈ openLines heredoc.quote lines,
      ¬ line.IsInterrupted) :
    ∃ place, Reads start
        (bodyTokens heredoc.indent start.offset (openLines heredoc.quote lines)) place ∧
      place.stack = stack.push ⟨.heredocBody heredoc, openedAt⟩ ∧
      place.offset = start.offset + ((openLines heredoc.quote lines).map Line.length).sum ∧
      match closingLine? heredoc.quote lines with
      | some last => place.cursor.atLineStart ∧
          terminatorIndent? heredoc.quote place.cursor.rest = some (indentWidth last.text)
      | none => place.cursor.rest = [] := by
  induction lines generalizing start with
  | nil =>
      rw [splitLines_eq] at hlines
      simp at hlines
  | cons line later ih =>
      rw [splitLines_eq] at hlines
      obtain ⟨rfl, hlater⟩ := List.cons.inj hlines
      have hindent := terminatorIndent?_eq hquote start.cursor.rest
      cases hcloses : (firstLine start.cursor.rest).closes heredoc.quote with
      | true =>
          obtain ⟨hclosing, hopen, -⟩ := closing_of_closes later hcloses
          rw [hcloses, if_pos rfl] at hindent
          rw [hclosing, hopen]
          exact ⟨start, .refl, hstack, rfl, hstart, hindent⟩
      | false =>
          obtain ⟨hclosing, hopen, -⟩ := closing_of_open later hcloses
          rw [hopen] at hplain
          rw [hclosing, hopen]
          let next : Lexer := { start with
            cursor := start.cursor.skip (firstLine start.cursor.rest).length
            stack := stack.push ⟨.heredocBody heredoc, openedAt⟩ }
          have hline : Reads start _ next := Reads.line hstack hquote hstart hcloses
            fun hinterpolating => hplain hinterpolating _ List.mem_cons_self
          have hoffset : next.offset = start.offset + _ := start.cursor.offset_skip_line
          have hrest : next.cursor.rest = _ := start.cursor.rest_skip_line
          by_cases hend : (firstLine start.cursor.rest).ending = []
          · rw [if_pos hend] at hlater
            subst hlater
            refine ⟨next, ?_, rfl, hoffset, ?_⟩
            · simpa [bodyTokens, openLines] using hline
            · rw [behindLine_eq_nil hend] at hrest
              exact hrest
          · rw [if_neg hend, ← hrest] at hlater
            obtain ⟨place, hreads, htop, hplace, hclosed⟩ := ih rfl
              (Cursor.atLineStart_skip_line hend) hlater fun hinterpolating line hmem =>
                hplain hinterpolating line (List.mem_cons_of_mem _ hmem)
            rw [hoffset] at hreads hplace
            refine ⟨place, hline.trans hreads, htop, ?_, hclosed⟩
            rw [hplace, List.map_cons, List.sum_cons, Nat.add_assoc]

end

/-- The quotes on the closing line end the heredoc. -/
theorem Reads.terminator (hstack : start.stack = stack.push ⟨.heredocBody heredoc, openedAt⟩)
    (hstart : start.cursor.atLineStart) {width : Nat}
    (hwidth : terminatorIndent? heredoc.quote start.cursor.rest = some width) :
    ∃ state last, Reads start
      [⟨.heredocTerminator, ⟨start.offset, width + 3⟩, state, width⟩] last := by
  have hrest : start.cursor.rest ≠ [] := by
    intro hnil
    simp [hnil, terminatorIndent?, beginsWithMarker] at hwidth
  obtain ⟨found, hreading, hreads⟩ := Reads.exists_of_mode hstack rfl hrest
  rcases hreading.heredocBody_cases with ⟨_, -, hown, rfl⟩ | ⟨hopen, -⟩
  · obtain rfl := Option.some.inj (hwidth.symm.trans hown)
    exact ⟨_, _, hreads (by simp) _ (Stack.apply_closing _ _ _ _ _)⟩
  · simp [Cursor.startsTerminator, hstart, hwidth] at hopen

/-! ### The whole heredoc -/

/-- Behind its opening quotes a heredoc is read line by line to the line that closes it, or to the
end of the text. -/
theorem Reads.byLines {opening : Line} {lines : List Line}
    (hlines : splitLines start.cursor.rest = opening :: lines)
    (hstack : start.stack = stack.push ⟨.heredocOpen heredoc, openedAt⟩)
    (hquote : isLineBreak heredoc.quote = false)
    (hplain : heredoc.interpolating → ∀ line ∈ openLines heredoc.quote lines,
      ¬ line.IsInterrupted) :
    ∃ place, Reads start (heredocTokens heredoc.quote start.offset opening lines) place ∧
      place.offset = start.offset + heredocLength heredoc.quote opening lines ∧
      match closingLine? heredoc.quote lines with
      | some last => ∃ state final, Reads place [⟨.heredocTerminator,
          ⟨place.offset, indentWidth last.text + 3⟩, state, indentWidth last.text⟩] final
      | none => place.cursor.rest = [] ∧ ∃ mode,
          place.stack = stack.push ⟨mode, openedAt⟩ ∧
          Problem.ofOpen? mode = some .unterminatedHeredoc := by
  rw [splitLines_eq] at hlines
  obtain ⟨rfl, hlater⟩ := List.cons.inj hlines
  have hopening := Reads.openingLine hstack
  have hrest := start.cursor.rest_skip_line
  by_cases hend : (firstLine start.cursor.rest).ending = []
  · -- The text ends with the opening line.
    rw [if_pos hend] at hlater hopening
    subst hlater
    rw [behindLine_eq_nil hend] at hrest
    let last : Lexer := { start with
      cursor := start.cursor.skip (firstLine start.cursor.rest).length
      stack := stack.push ⟨.heredocOpen heredoc, openedAt⟩ }
    have hoffset : last.offset = start.offset + _ := start.cursor.offset_skip_line
    refine ⟨last, ?_, hoffset, hrest, .heredocOpen heredoc, rfl, rfl⟩
    simpa [heredocTokens, bodyTokens, openLines] using hopening
  · rw [if_neg hend] at hlater hopening
    rw [closingIndent_eq hquote hlater hplain] at hopening
    let body : Lexer := { start with
      cursor := start.cursor.skip (firstLine start.cursor.rest).length
      stack := stack.push ⟨.heredocBody { heredoc with
        indent := closingWidth heredoc.quote lines }, openedAt⟩ }
    have hbody : body.stack = stack.push ⟨.heredocBody _, openedAt⟩ := rfl
    have hoffset : body.offset = start.offset + _ := start.cursor.offset_skip_line
    rw [← hrest] at hlater
    obtain ⟨place, hreads, htop, hplace, hclosed⟩ :=
      Reads.lines hbody hquote (Cursor.atLineStart_skip_line hend) hlater hplain
    rw [hoffset] at hreads hplace
    refine ⟨place, hopening.trans hreads, ?_, ?_⟩
    · rw [hplace, heredocLength, Nat.add_assoc]
    · cases hclosing : closingLine? heredoc.quote lines with
      | none =>
          rw [hclosing] at hclosed
          exact ⟨hclosed, _, htop, rfl⟩
      | some last =>
          rw [hclosing] at hclosed
          exact Reads.terminator htop hclosed.1 hclosed.2

end

/-! ### Where a heredoc begins, and where it is left open -/

/-- Behind opening quotes the lexer waits for the rest of their line. -/
theorem Moves.exists_heredoc {lexer : Lexer} {step : Step} (h : Moves lexer step)
    (hkind : step.token.kind = .heredocPromoter) :
    ∃ (heredoc : Heredoc) (openedAt : Nat) (stack : Stack),
      step.lexer.stack = stack.push ⟨.heredocOpen heredoc, openedAt⟩ ∧
      isLineBreak heredoc.quote = false := by
  cases h with
  | mk habove hgone hreading hfits happly =>
      obtain ⟨literal, quote, interpolating, hquote, htransition⟩ :=
        hreading.heredocPromoter_cases hkind
      obtain ⟨own, hown⟩ := Option.isSome_iff_exists.mp hquote
      have hbreak := isLineBreak_of_quotedLiteral? hown
      rcases htransition with htransition | htransition
      · rw [htransition] at happly
        exact ⟨Heredoc.opened literal quote interpolating, _, _, (Except.ok.inj happly).symm,
          hbreak⟩
      · rw [htransition] at happly
        obtain ⟨frame, below, -, hstack⟩ := Stack.exists_of_apply_replace happly
        exact ⟨Heredoc.opened literal quote interpolating, frame.openedAt, ⟨below, _⟩, hstack,
          hbreak⟩

/-- What the top frame waits for at the end of the text is reported. -/
theorem mem_diagnostics_finish {lexer : Lexer} {stack : Stack} {frame : Frame} {problem : Problem}
    (hfinished : lexer.finished = false) (hstack : lexer.stack = stack.push frame)
    (hproblem : Problem.ofOpen? frame.mode = some problem) :
    ⟨problem, lexer.offset, frame.openedAt⟩ ∈ lexer.finish.lexer.diagnostics := by
  have hmode : frame.mode ≠ .sigilModifiers := by
    intro hmodifiers
    simp [hmodifiers, Problem.ofOpen?] at hproblem
  rw [finish_diagnostics hfinished, hstack]
  refine List.mem_append_right _ (List.mem_filterMap.mpr ⟨frame, ?_, ?_⟩)
  · simp [withoutModifiers, Stack.push, hmode]
  · simp [Diagnostic.unterminated?, hproblem]

/-- Whatever is read behind the opening quotes of a plain heredoc, it is read line by line. -/
theorem Reads.readsByLines {start last : Lexer} {tokens later : List Token} {frames : List Frame}
    {construct : Construct} {opener : List Char} {stack : Stack} {heredoc : Heredoc}
    {openedAt : Nat} {opening : Line} {lines : List Line} (h : Reads start later last)
    (hlast : last.cursor.rest = []) (hfinished : start.finished = false)
    (hlines : splitLines start.cursor.rest = opening :: lines)
    (hstack : start.stack = stack.push ⟨.heredocOpen heredoc, openedAt⟩)
    (hquote : isLineBreak heredoc.quote = false)
    (hplain : heredoc.interpolating → ∀ line ∈ openLines heredoc.quote lines,
      ¬ line.IsInterrupted) :
    Lexed.ReadsByLines ⟨Source.ofList start.cursor.text, tokens, last.finish.lexer.diagnostics,
      frames⟩ ⟨construct, openedAt, opener⟩ heredoc.quote start.offset opening lines later := by
  obtain ⟨place, hfront, hplace, hclosed⟩ := Reads.byLines hlines hstack hquote hplain
  unfold Lexed.ReadsByLines
  cases hclosing : closingLine? heredoc.quote lines with
  | none =>
      rw [hclosing] at hclosed
      obtain ⟨hend, mode, htop, hproblem⟩ := hclosed
      obtain ⟨more, final, rfl, hmore, -, hfinish⟩ := h.exists_more hlast hfront
      obtain ⟨rfl, rfl⟩ := hmore.eq_of_rest_nil hend
      refine ⟨List.append_nil _, ?_⟩
      have hoffset : final.offset = start.cursor.text.length := by
        rw [offset_of_rest_nil hend, hfront.text]
      rw [← hfinish, Source.length, Source.ofList, ← hoffset]
      exact mem_diagnostics_finish (hfront.finished.trans hfinished) htop hproblem
  | some closing =>
      rw [hclosing] at hclosed
      obtain ⟨state, final, hterminator⟩ := hclosed
      obtain ⟨more, -, rfl, -⟩ := h.exists_more hlast (hfront.trans hterminator)
      rw [hplace]
      exact ⟨state, more, by simp⟩

end Lexer

/-! ## Whole texts -/

/-- **Plain heredocs are read line by line.**  Behind the opening quotes of a heredoc the text is
cut into lines: the rest of the line of the quotes, and the lines behind it.  The first of these in
which the same three quotes follow nothing but spaces and tabs closes the heredoc.  If the heredoc
does not interpolate, or no interpolation begins in front of that line, then the tokens behind the
quotes are those of the lines, with the indentation of the closing line taken off, and then the
terminator.  If there is no such line, the heredoc reaches to the end of the text and is reported as
unterminated. -/
theorem tokenize_plainHeredoc (text : List Char) (options : Options) :
    ∃ lexed, tokenize options text = .ok lexed ∧ ∀ seen promoter later,
      lexed.tokens = seen ++ promoter :: later → promoter.kind = .heredocPromoter →
      ∃ heredoc quote previous outer opening lines,
        replay lexed.source (seen ++ [promoter]) = some ⟨previous, heredoc :: outer⟩ ∧
        heredoc.opener = [quote, quote, quote] ∧
        splitLines (text.drop promoter.span.stop) = opening :: lines ∧
        ((heredoc.interpolates text → ∀ line ∈ openLines quote lines, ¬ line.IsInterrupted) →
          lexed.ReadsByLines heredoc quote promoter.span.stop opening lines later) := by
  obtain ⟨tokens, last, hreads, hlast, htokenize⟩ :=
    Lexer.exists_reads_of_tokenize text options
  refine ⟨_, htokenize, ?_⟩
  intro seen promoter later htokens hkind
  replace htokens : tokens = seen ++ promoter :: later := htokens
  -- The lexer reads the quotes in one step and stands behind them.
  rw [htokens, List.append_cons] at hreads
  obtain ⟨start, hbefore, hlater⟩ := hreads.exists_of_append
  obtain ⟨middle, step, -, hrest, hstep, rfl, rfl⟩ := hbefore.exists_of_snoc
  have hmoves := Lexer.moves_of_step hrest hstep
  obtain ⟨heredoc, openedAt, stack, hstack, hquote⟩ := hmoves.exists_heredoc hkind
  obtain ⟨⟨previous, pending⟩, hreplay, hfollows⟩ := hbefore.follows
  obtain ⟨htext, -, hframes⟩ := (Lexer.IsShaped.ofText text options).reads hbefore
  rw [hstack] at hfollows hframes
  obtain rfl : pending = _ := hfollows.pending_cons rfl
  have hopened : Mode.OpenedBy (text.drop openedAt) (.heredocBody heredoc) := hframes.nested.1
  have hoffset : step.lexer.offset = step.token.span.stop := hmoves.offset
  have hahead : step.lexer.cursor.rest = text.drop step.token.span.stop := by
    rw [step.lexer.cursor.rest_eq_drop, htext, ← hoffset]
    rfl
  obtain ⟨opening, lines, hlines⟩ : ∃ opening lines,
      splitLines (text.drop step.token.span.stop) = opening :: lines := ⟨_, _, splitLines_eq _⟩
  refine ⟨_, heredoc.quote, _, _, opening, lines, hreplay, rfl, hlines, ?_⟩
  intro hplain
  rw [hopened.interpolates_eq] at hplain
  rw [← hahead] at hlines
  obtain rfl := htext
  rw [← hoffset]
  exact hlater.readsByLines hlast hbefore.finished hlines hstack hquote hplain

/-- The lines behind the opening one are one that is stripped, an empty one and the one that closes
the heredoc.  What would begin an interpolation in the first of them is escaped. -/
example :
    (tokenize {} ['"', '"', '"', 'x', '\r', '\n', ' ', ' ', '\\', '#', '{', '\n', '\n', ' ', '"',
        '"', '"']).toOption.map (·.tokens) =
      some [⟨.heredocPromoter, ⟨0, 3⟩, .heredocOpen, 0⟩,
        ⟨.heredocTrailing, ⟨3, 1⟩, .heredocOpen, 0⟩, ⟨.eol, ⟨4, 2⟩, .heredocBody, 0⟩,
        ⟨.heredocLine, ⟨6, 5⟩, .heredocBody, 1⟩, ⟨.eol, ⟨11, 1⟩, .heredocBody, 0⟩,
        ⟨.eol, ⟨12, 1⟩, .heredocBody, 0⟩, ⟨.heredocTerminator, ⟨13, 4⟩, .initial, 1⟩] := by
  decide +kernel

end ElixirLexer
