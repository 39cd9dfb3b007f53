import ElixirLexer.Lexer.Session
import ElixirLexer.Proofs.Reads

/-!
# The tokens partition the text

However a lexer is opened, reading token after token succeeds, comes to the end of the text and cuts
the text into non-empty pieces without gaps or overlaps (`pull_covers_text`).  Behind the end every
further step gives the same empty mark and changes nothing.  Nothing is asked of the mode in which
the lexer is opened, except that it is not plain code, and the counters have no upper bound.
-/

namespace ElixirLexer

/-! ## Tilings -/

/-- The tokens follow each other from one offset to another, and none of them is empty. -/
def Tiles : Nat → List Token → Nat → Prop
  | start, [], stop => start = stop
  | start, token :: later, stop =>
      token.span.start = start ∧ 0 < token.span.length ∧ Tiles token.span.stop later stop

namespace Tiles

variable {start stop : Nat} {tokens : List Token}

theorem snoc {token : Token} (h : Tiles start tokens stop) (hstart : token.span.start = stop)
    (hpos : 0 < token.span.length) : Tiles start (tokens ++ [token]) token.span.stop := by
  induction tokens generalizing start with
  | nil =>
      have hstop : start = stop := h
      exact ⟨hstart.trans hstop.symm, hpos, rfl⟩
  | cons first later ih => exact ⟨h.1, h.2.1, ih h.2.2⟩

/-- Every token takes a character. -/
theorem add_length_le (h : Tiles start tokens stop) : start + tokens.length ≤ stop := by
  induction tokens generalizing start with
  | nil => exact Nat.le_of_eq h
  | cons first later ih =>
      obtain ⟨hstart, hpos, hlater⟩ := h
      have hle := ih hlater
      simp only [Span.stop] at hle
      rw [List.length_cons]
      omega

/-- The slices of a tiling, put together, are the text between its ends. -/
theorem flatMap_slice {text : List Char} (h : Tiles start tokens stop) :
    tokens.flatMap (fun token => (Source.ofList text).slice token.span) =
      (text.drop start).take (stop - start) := by
  induction tokens generalizing start with
  | nil =>
      have hstop : start = stop := h
      simp [hstop]
  | cons first later ih =>
      obtain ⟨hstart, hpos, hlater⟩ := h
      have hle := hlater.add_length_le
      simp only [Span.stop] at hle hlater
      have hsplit : stop - first.span.start =
          first.span.length + (stop - (first.span.start + first.span.length)) := by
        omega
      rw [List.flatMap_cons, ih hlater, ← hstart, hsplit, List.take_add, List.drop_drop]
      rfl

end Tiles

namespace Lexer

theorem Reads.tiles {start last : Lexer} {tokens : List Token} (h : Reads start tokens last) :
    Tiles start.offset tokens last.offset := by
  induction h with
  | refl => rfl
  | snoc before hrest hstep ih =>
      have hmoves := moves_of_step hrest hstep
      rw [hmoves.offset]
      exact ih.snoc hmoves.token_start hmoves.token_length_pos

end Lexer

/-! ## Every opening -/

/-- Every way to open a lexer succeeds except inside plain code, and the lexer stands in front of
the whole text. -/
theorem Opening.exists_lexer (text : List Char) {opening : Opening}
    (h : opening ≠ .inside .initial) :
    ∃ lexer, opening.lexer text = .ok lexer ∧ lexer.cursor = Cursor.ofText text := by
  cases opening with
  | plain options => exact ⟨Lexer.ofText text options, rfl, rfl⟩
  | inside mode =>
      have hmode : mode ≠ .initial := fun hinitial => h (congrArg Opening.inside hinitial)
      refine ⟨{ Lexer.ofText text {} with stack := ⟨[⟨mode, 0⟩], 0⟩ }, ?_, rfl⟩
      simp [Opening.lexer, Lexer.inMode, Stack.ofFrames, Except.map, hmode]

/-- From `lexer` the tokens cover the text, and behind them only the mark is read. -/
structure Covers (lexer : Lexer) (text : List Char) (tokens : List Token) (mark : Token)
    (last : Lexer) : Prop where
  /-- The tokens and the mark are what the steps give. -/
  pull_eq : ∃ events, lexer.pull (tokens.length + 1) = .ok ⟨tokens ++ [mark], events, last⟩
  drain_eq : ∃ events, lexer.drain = .ok ⟨tokens, events, last⟩
  length_le : tokens.length ≤ text.length
  ne_endOfInput : ∀ token ∈ tokens, token.kind ≠ .endOfInput
  tiles : Tiles 0 tokens text.length
  slices_eq : tokens.flatMap (fun token => (Source.ofList text).slice token.span) = text
  mark_eq : mark = Token.endMark text.length last.stack.top.mode.id
  offset_eq : last.offset = text.length
  /-- From there on the mark is repeated, and the lexer stays as it is. -/
  pull_last : ∀ count, last.pull count = .ok ⟨List.replicate count mark, [], last⟩

theorem Lexer.exists_covers {text : List Char} {lexer : Lexer}
    (h : lexer.cursor = Cursor.ofText text) :
    ∃ tokens mark last, Covers lexer text tokens mark last := by
  obtain ⟨tokens, drained, last, hreads, hlast, hdrain⟩ := Lexer.exists_reads_of_drain lexer
  obtain ⟨events, hpull⟩ := hreads.exists_pull
  have hstart : lexer.offset = 0 := by rw [Lexer.offset, h, Cursor.offset_ofText]
  have htext : last.cursor.text = text := by rw [hreads.text, h, Cursor.text_ofText]
  have hstop : last.offset = text.length := by
    have hlength := Cursor.offset_add_remaining last.cursor
    rw [Cursor.remaining, hlast, htext] at hlength
    simpa [Lexer.offset] using hlength
  have htiles := hreads.tiles
  rw [hstart, hstop] at htiles
  have hslices : tokens.flatMap (fun token => (Source.ofList text).slice token.span) =
      (text.drop 0).take (text.length - 0) := htiles.flatMap_slice
  have hlength := htiles.add_length_le
  refine ⟨tokens, last.finish.token, last.finish.lexer, ?_⟩
  exact {
    pull_eq := ⟨_, Lexer.pull_append hpull (Lexer.pull_one (Lexer.step_of_rest_nil hlast))⟩
    drain_eq := ⟨drained, hdrain⟩
    length_le := by omega
    ne_endOfInput := hreads.ne_endOfInput
    tiles := htiles
    slices_eq := by simpa using hslices
    mark_eq := by rw [Lexer.finish_token, hstop]
    offset_eq := by rw [Lexer.offset, Lexer.finish_cursor, ← hstop, Lexer.offset]
    pull_last := Lexer.pull_finish hlast }

/-- **The tokens partition the text.**  A lexer that is opened in plain code, or inside any mode
other than plain code, reads at most one token for each character, and these tokens cover the text
exactly; then it reads the same empty mark again and again. -/
theorem pull_covers_text (text : List Char) (opening : Opening) (h : opening ≠ .inside .initial) :
    ∃ lexer tokens mark last, opening.lexer text = .ok lexer ∧
      Covers lexer text tokens mark last ∧ ∀ count, ∃ run, lexer.pull count = .ok run := by
  obtain ⟨lexer, hlexer, hcursor⟩ := Opening.exists_lexer text h
  obtain ⟨tokens, mark, last, hcovers⟩ := Lexer.exists_covers hcursor
  exact ⟨lexer, tokens, mark, last, hlexer, hcovers, fun count => Lexer.exists_pull count lexer⟩

/-- The body of a group that no opener leads to: its closer is the escape character, and the text
ends in half an escape and half a number. -/
theorem pull_covers_text_of_escape_closer :
    Opening.inside (.group ⟨.sigil, '#', '\\', 1, true⟩) ≠ .inside .initial ∧
      ∃ lexer tokens mark last,
        (Opening.inside (.group ⟨.sigil, '#', '\\', 1, true⟩)).lexer
          ['#', '{', '0', 'x', '}', '\\'] = .ok lexer ∧
        Covers lexer ['#', '{', '0', 'x', '}', '\\'] tokens mark last ∧
        ∀ count, ∃ run, lexer.pull count = .ok run :=
  have hmode : Opening.inside (.group ⟨.sigil, '#', '\\', 1, true⟩) ≠ .inside .initial := by simp
  ⟨hmode, pull_covers_text _ _ hmode⟩

end ElixirLexer
