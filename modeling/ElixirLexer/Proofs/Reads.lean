import ElixirLexer.Lexer.Run
import ElixirLexer.Proofs.Step

/-!
# Reading to the end of the text

`Reads start tokens last` says that `start` reads `tokens`, each of them before the end of the text,
and becomes `last`.  From every lexer such a reading leads to the end of the text, because every
token takes a character, and draining a lexer is that reading with the end reported behind it
(`exists_reads_of_drain`).  What holds at the start and is kept by every step holds after any
number of steps, those behind the end included (`pull_invariant`).
-/

namespace ElixirLexer

namespace Lexer

/-- `start` reads `tokens` before the end of the text and becomes `last`. -/
inductive Reads (start : Lexer) : List Token → Lexer → Prop
  | refl : Reads start [] start
  | snoc {tokens : List Token} {last : Lexer} {step : Step} (before : Reads start tokens last)
      (hrest : last.cursor.rest ≠ []) (hstep : last.step = .ok step) :
      Reads start (tokens ++ [step.token]) step.lexer

namespace Reads

variable {start last : Lexer} {tokens : List Token}

theorem trans {middle : Lexer} {more : List Token} (h : Reads start tokens middle)
    (later : Reads middle more last) : Reads start (tokens ++ more) last := by
  induction later with
  | refl => simpa using h
  | snoc before hrest hstep ih =>
      rw [← List.append_assoc]
      exact .snoc ih hrest hstep

theorem single {step : Step} (hrest : start.cursor.rest ≠ []) (hstep : start.step = .ok step) :
    Reads start [step.token] step.lexer :=
  .snoc .refl hrest hstep

/-- The last token of a reading is the token of a step. -/
theorem exists_of_snoc {token : Token} (h : Reads start (tokens ++ [token]) last) :
    ∃ middle step, Reads start tokens middle ∧ middle.cursor.rest ≠ [] ∧
      middle.step = .ok step ∧ step.token = token ∧ step.lexer = last := by
  generalize hall : tokens ++ [token] = all at h
  cases h with
  | refl => simp at hall
  | snoc before hrest hstep =>
      obtain ⟨rfl, htoken⟩ := List.append_inj' hall rfl
      exact ⟨_, _, before, hrest, hstep, (List.singleton_inj.mp htoken).symm, rfl⟩

/-- A reading can be interrupted between any two tokens. -/
theorem exists_of_append {more : List Token} (h : Reads start (tokens ++ more) last) :
    ∃ middle, Reads start tokens middle ∧ Reads middle more last := by
  generalize hall : tokens ++ more = all at h
  induction h generalizing more with
  | refl =>
      obtain ⟨rfl, rfl⟩ := List.append_eq_nil_iff.mp hall
      exact ⟨start, .refl, .refl⟩
  | @snoc earlier middle step before hrest hstep ih =>
      rcases List.eq_nil_or_concat more with rfl | ⟨front, token, rfl⟩
      · rw [List.append_nil] at hall
        exact ⟨step.lexer, hall ▸ .snoc before hrest hstep, .refl⟩
      · rw [List.concat_eq_append, ← List.append_assoc] at hall
        obtain ⟨hfront, htoken⟩ := List.append_inj' hall rfl
        obtain ⟨between, hbetween, hlater⟩ := ih hfront
        obtain rfl := List.singleton_inj.mp htoken
        refine ⟨between, hbetween, ?_⟩
        rw [List.concat_eq_append]
        exact .snoc hlater hrest hstep

theorem eq_of_nil (h : Reads start [] last) : last = start := by
  generalize hall : [] = all at h
  cases h with
  | refl => rfl
  | snoc before hrest hstep => simp at hall

/-- The first token of a reading is the token of a step. -/
theorem exists_of_cons {token : Token} (h : Reads start (token :: tokens) last) :
    ∃ step, start.cursor.rest ≠ [] ∧ start.step = .ok step ∧ step.token = token ∧
      Reads step.lexer tokens last := by
  have hsplit : Reads start ([token] ++ tokens) last := h
  obtain ⟨second, hsecond, hlater⟩ := hsplit.exists_of_append
  have hsnoc : Reads start ([] ++ [token]) second := hsecond
  obtain ⟨first, step, hnone, hrest, hstep, htoken, rfl⟩ := hsnoc.exists_of_snoc
  obtain rfl := hnone.eq_of_nil
  exact ⟨step, hrest, hstep, htoken, hlater⟩

/-- Nothing is read behind the end of the text. -/
theorem eq_of_rest_nil (h : Reads start tokens last) (hrest : start.cursor.rest = []) :
    tokens = [] ∧ last = start := by
  cases tokens with
  | nil => exact ⟨rfl, h.eq_of_nil⟩
  | cons token later =>
      obtain ⟨step, hmore, -⟩ := h.exists_of_cons
      exact absurd hrest hmore

theorem text (h : Reads start tokens last) : last.cursor.text = start.cursor.text := by
  induction h with
  | refl => rfl
  | snoc before hrest hstep ih => rw [(moves_of_step hrest hstep).text, ih]

theorem options (h : Reads start tokens last) : last.options = start.options := by
  induction h with
  | refl => rfl
  | snoc before hrest hstep ih => rw [(moves_of_step hrest hstep).options, ih]

theorem finished (h : Reads start tokens last) : last.finished = start.finished := by
  induction h with
  | refl => rfl
  | snoc before hrest hstep ih => rw [(moves_of_step hrest hstep).finished, ih]

/-- No end mark is read before the end of the text. -/
theorem ne_endOfInput (h : Reads start tokens last) :
    ∀ token ∈ tokens, token.kind ≠ .endOfInput := by
  induction h with
  | refl => simp
  | snoc before hrest hstep ih =>
      intro token hmem
      rcases List.mem_append.mp hmem with hmem | hmem
      · exact ih token hmem
      · rw [List.mem_singleton.mp hmem]
        exact (moves_of_step hrest hstep).token_ne_endOfInput

/-- A match found under the top frame is made a token. -/
theorem of_classify (start : Lexer) {found : Match} {stack : Stack} (hrest : start.cursor.rest ≠ [])
    (h : classify start.cursor start.stack.top.mode start.options = .emit found)
    (happly : start.stack.apply found.transition start.offset = .ok stack) :
    Reads start [⟨found.kind, ⟨start.offset, found.length⟩, stack.top.mode.id, found.indent⟩]
      { start with
        cursor := start.cursor.skip found.length
        stack
        diagnostics := start.diagnostics ++ start.badCharacters found } := by
  have hfits := (reading_of_emit hrest h).fits hrest
  have hchoose : choose start.cursor start.options start.stack.base start.stack.above =
      .ok ⟨found, start.stack, []⟩ := by
    obtain ⟨cursor, ⟨above, base⟩, options, diagnostics, finished⟩ := start
    cases above with
    | nil =>
        rw [choose]
        rw [show classify cursor .initial options = .emit found from h]
    | cons frame below =>
        rw [choose]
        rw [show classify cursor frame.mode options = .emit found from h]
  exact .single hrest (step_eq_carryOut hrest hchoose
    (Nat.le_trans hfits.length_le hfits.extent_le) happly)

end Reads

/-! ## Taking and draining -/

/-- With more steps than characters are left, taking comes to the end of the text. -/
theorem exists_reads_of_take (count : Nat) (lexer : Lexer)
    (hcount : lexer.cursor.rest.length < count) :
    ∃ tokens events last, Reads lexer tokens last ∧ last.cursor.rest = [] ∧
      lexer.take count = .ok ⟨tokens, events, last.finish.lexer⟩ := by
  induction count generalizing lexer with
  | zero => omega
  | succ count ih =>
      by_cases hrest : lexer.cursor.rest = []
      · have hend : lexer.finish.token.isEnd = true := by
          rw [finish_token]
          rfl
        refine ⟨[], lexer.finish.events, lexer, .refl, hrest, ?_⟩
        simp [take, step_of_rest_nil hrest, hend, bind, Except.bind, pure, Except.pure]
      · obtain ⟨step, hstep, hmoves⟩ := exists_moves hrest
        -- The step took a character, so the steps that are left suffice for the rest.
        have hnext : step.lexer.cursor.rest.length < count := by
          have hoffset := hmoves.offset
          have hpos := hmoves.token_length_pos
          have hstart := hmoves.token_start
          have hbefore := Cursor.offset_add_remaining lexer.cursor
          have hafter := Cursor.offset_add_remaining step.lexer.cursor
          rw [hmoves.text, ← hbefore] at hafter
          simp only [Lexer.offset, Span.stop, Cursor.remaining] at hoffset hstart hafter
          omega
        obtain ⟨tokens, events, last, hreads, hlast, htake⟩ := ih step.lexer hnext
        refine ⟨step.token :: tokens, step.events ++ events, last,
          (Reads.single hrest hstep).trans hreads, hlast, ?_⟩
        have hend : step.token.isEnd = false := by
          simpa [Token.isEnd] using hmoves.token_ne_endOfInput
        simp [take, hstep, hend, htake, bind, Except.bind, pure, Except.pure]

/-- Draining reads to the end of the text and reports the end. -/
theorem exists_reads_of_drain (lexer : Lexer) :
    ∃ tokens events last, Reads lexer tokens last ∧ last.cursor.rest = [] ∧
      lexer.drain = .ok ⟨tokens, events, last.finish.lexer⟩ :=
  exists_reads_of_take _ lexer (Nat.lt_succ_self _)

/-- A text is lexed by reading it to its end. -/
theorem exists_reads_of_tokenize (text : List Char) (options : Options) :
    ∃ tokens last, Reads (ofText text options) tokens last ∧ last.cursor.rest = [] ∧
      tokenize options text = .ok ⟨Source.ofList text, tokens, last.finish.lexer.diagnostics,
        last.finish.lexer.stack.frames⟩ := by
  obtain ⟨tokens, events, last, hreads, hlast, hdrain⟩ :=
    exists_reads_of_drain (ofText text options)
  refine ⟨tokens, last, hreads, hlast, ?_⟩
  simp [tokenize, hdrain, bind, Except.bind, pure, Except.pure]

/-! ## Pulling -/

theorem pull_append {lexer : Lexer} {count more : Nat} {run later : Run}
    (h : lexer.pull count = .ok run) (hlater : run.lexer.pull more = .ok later) :
    lexer.pull (count + more) =
      .ok ⟨run.tokens ++ later.tokens, run.events ++ later.events, later.lexer⟩ := by
  induction count generalizing lexer run with
  | zero =>
      obtain rfl := Except.ok.inj h
      simpa using hlater
  | succ count ih =>
      obtain ⟨step, hstep⟩ := exists_step lexer
      rw [Nat.succ_add]
      simp only [pull, hstep, bind, Except.bind, pure, Except.pure] at h ⊢
      split at h
      · simp at h
      · next rest hrest =>
          obtain rfl := Except.ok.inj h
          rw [ih hrest hlater]
          simp

/-- Any number of steps succeeds. -/
theorem exists_pull (count : Nat) (lexer : Lexer) : ∃ run, lexer.pull count = .ok run := by
  induction count generalizing lexer with
  | zero => exact ⟨_, rfl⟩
  | succ count ih =>
      obtain ⟨step, hstep⟩ := exists_step lexer
      obtain ⟨run, hrun⟩ := ih step.lexer
      exact ⟨⟨step.token :: run.tokens, step.events ++ run.events, run.lexer⟩,
        by simp [pull, hstep, hrun, bind, Except.bind, pure, Except.pure]⟩

theorem pull_one {lexer : Lexer} {step : Step} (h : lexer.step = .ok step) :
    lexer.pull 1 = .ok ⟨[step.token], step.events, step.lexer⟩ := by
  simp [pull, h, bind, Except.bind, pure, Except.pure]

/-- What every step keeps is kept by any number of steps. -/
theorem pull_invariant {holds : Lexer → Prop}
    (hkeeps : ∀ lexer step, holds lexer → lexer.step = .ok step → holds step.lexer)
    {count : Nat} {lexer : Lexer} {run : Run} (hstart : holds lexer)
    (h : lexer.pull count = .ok run) : holds run.lexer := by
  induction count generalizing lexer run with
  | zero =>
      obtain rfl := Except.ok.inj h
      exact hstart
  | succ count ih =>
      obtain ⟨step, hstep⟩ := exists_step lexer
      simp only [pull, hstep, bind, Except.bind, pure, Except.pure] at h
      split at h
      · simp at h
      · next rest hrest =>
          obtain rfl := Except.ok.inj h
          have hlast : holds rest.lexer := ih (hkeeps lexer step hstart hstep) hrest
          exact hlast

theorem Reads.exists_pull {start last : Lexer} {tokens : List Token}
    (h : Reads start tokens last) :
    ∃ events, start.pull tokens.length = .ok ⟨tokens, events, last⟩ := by
  induction h with
  | refl => exact ⟨[], rfl⟩
  | @snoc tokens last step before hrest hstep ih =>
      obtain ⟨events, hevents⟩ := ih
      refine ⟨events ++ step.events, ?_⟩
      rw [List.length_append]
      exact pull_append hevents (pull_one hstep)

/-- Behind the end of the text, steps repeat the end mark and change nothing. -/
theorem pull_finish {lexer : Lexer} (hrest : lexer.cursor.rest = []) (count : Nat) :
    lexer.finish.lexer.pull count =
      .ok ⟨List.replicate count lexer.finish.token, [], lexer.finish.lexer⟩ := by
  have hstep : lexer.finish.lexer.step = .ok ⟨lexer.finish.token, [], lexer.finish.lexer⟩ := by
    rw [step_of_rest_nil (by rw [finish_cursor, hrest]), finish_finish]
  induction count with
  | zero => rfl
  | succ count ih =>
      simp [pull, hstep, ih, List.replicate_succ, bind, Except.bind, pure, Except.pure]

end Lexer

end ElixirLexer
