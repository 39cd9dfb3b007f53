import ElixirLexer.Proofs.Snapshots

/-!
# Going on from a snapshot

A lexer that is interrupted after any number of steps and replaced by one that goes on from its
snapshot leaves nothing out and finds nothing twice: the tokens, the end mark and the final stack
are those of the lexer that was interrupted, and the reports are those of an uninterrupted run from
the place of the snapshot on (`resume_snapshot_drain`).

The run may have been interrupted behind the end mark.  The new lexer then gives the mark once more
and finds again what is reported at the end.
-/

namespace ElixirLexer

namespace Lexer

/-! ## Runs against readings -/

section

variable {start last : Lexer} {tokens : List Token}

/-- Taking goes through a reading and on from its end. -/
theorem Reads.exists_take (h : Reads start tokens last) :
    ∃ events, ∀ more, start.take (tokens.length + more) = (last.take more).map fun later =>
      ⟨tokens ++ later.tokens, events ++ later.events, later.lexer⟩ := by
  induction h with
  | refl =>
      refine ⟨[], fun more => ?_⟩
      rw [List.length_nil, Nat.zero_add]
      cases start.take more <;> rfl
  | @snoc tokens last step before hrest hstep ih =>
      obtain ⟨events, htake⟩ := ih
      refine ⟨events ++ step.events, fun more => ?_⟩
      have hend : step.token.isEnd = false := by
        simpa [Token.isEnd] using (moves_of_step hrest hstep).token_ne_endOfInput
      -- The last step of the reading is the first of those that are taken from its last place.
      rw [List.length_append, List.length_singleton, Nat.add_assoc, Nat.add_comm 1, htake]
      cases hlater : step.lexer.take more <;>
        simp [take, hstep, hend, hlater, Except.map, bind, Except.bind, pure, Except.pure]

/-- Draining gives the tokens of any reading to the end of the text. -/
theorem Reads.exists_drain (h : Reads start tokens last) (hlast : last.cursor.rest = []) :
    ∃ events, start.drain = .ok ⟨tokens, events, last.finish.lexer⟩ := by
  obtain ⟨events, htake⟩ := h.exists_take
  have hcount : tokens.length ≤ start.cursor.remaining := by
    have htiles := h.tiles.add_length_le
    have hstart := Cursor.offset_add_remaining start.cursor
    rw [offset_of_rest_nil hlast, h.text, Lexer.offset] at htiles
    omega
  obtain ⟨extra, hextra⟩ := Nat.exists_eq_add_of_le hcount
  have hend : last.finish.token.isEnd = true := by
    rw [finish_token]
    rfl
  have hmark : last.take (extra + 1) = .ok ⟨[], last.finish.events, last.finish.lexer⟩ := by
    simp [take, step_of_rest_nil hlast, hend, bind, Except.bind, pure, Except.pure]
  refine ⟨events ++ last.finish.events, ?_⟩
  rw [drain, hextra, Nat.add_assoc, htake, hmark]
  simp [Except.map]

/-- Every reading is the beginning of the one to the end of the text. -/
theorem Reads.exists_more {place : Lexer} {front : List Token} (h : Reads start tokens last)
    (hlast : last.cursor.rest = []) (hfront : Reads start front place) :
    ∃ more final, tokens = front ++ more ∧ Reads place more final ∧ final.cursor.rest = [] ∧
      final.finish.lexer = last.finish.lexer := by
  obtain ⟨more, _, final, hmore, hfinal, -⟩ := exists_reads_of_drain place
  obtain ⟨_, hdrain⟩ := h.exists_drain hlast
  obtain ⟨_, hagain⟩ := (hfront.trans hmore).exists_drain hfinal
  have hrun := Except.ok.inj (hdrain.symm.trans hagain)
  simp only [Run.mk.injEq] at hrun
  exact ⟨more, final, hrun.1, hmore, hfinal, hrun.2.2.symm⟩

/-- Any reading of a text to its end tells what lexing the text gives. -/
theorem Reads.tokenize_eq {text : List Char} {options : Options}
    (h : Reads (ofText text options) tokens last) (hlast : last.cursor.rest = []) :
    tokenize options text = .ok ⟨Source.ofList text, tokens, last.finish.lexer.diagnostics,
      last.finish.lexer.stack.frames⟩ := by
  obtain ⟨events, hdrain⟩ := h.exists_drain hlast
  simp [tokenize, hdrain, bind, Except.bind, pure, Except.pure]

/-- Behind the tokens the end mark is given. -/
theorem Reads.exists_pull_mark (h : Reads start tokens last) (hlast : last.cursor.rest = []) :
    ∃ events, start.pull (tokens.length + 1) =
      .ok ⟨tokens ++ [last.finish.token], events, last.finish.lexer⟩ := by
  obtain ⟨events, hpull⟩ := h.exists_pull
  exact ⟨_, pull_append hpull (pull_one (step_of_rest_nil hlast))⟩

end

end Lexer

/-! ## Restarting -/

/-- The lexer `resumed` does what the lexer it stands for would have done.  Both `whole` and
`before` come from `start`: the first is its uninterrupted run, the second the first `count` steps,
behind which the snapshot was taken.  What `resumed` reads is `rest`. -/
structure Restarts (start : Lexer) (whole : Run) (count : Nat) (before : Run) (resumed : Lexer)
    (rest : Run) : Prop where
  tokens_eq : rest.tokens = whole.tokens.drop count
  /-- Step by step the interrupted lexer gives the same, at the end of the text and behind it. -/
  pull_eq : ∀ more, ∃ later again, before.lexer.pull more = .ok later ∧
    resumed.pull more = .ok again ∧ again.tokens = later.tokens
  mark_eq : ∃ mark, mark.kind = .endOfInput ∧
    (∃ events, start.pull (whole.tokens.length + 1) =
      .ok ⟨whole.tokens ++ [mark], events, whole.lexer⟩) ∧
    ∃ events, resumed.pull (rest.tokens.length + 1) =
      .ok ⟨rest.tokens ++ [mark], events, rest.lexer⟩
  stack_eq : rest.lexer.stack = whole.lexer.stack
  diagnostics_eq : rest.lexer.diagnostics = whole.lexer.diagnostics.filter
    fun diagnostic => before.lexer.snapshot.offset ≤ diagnostic.offset

/-- **A snapshot is enough to go on from.**  However a lexer is opened and after however many steps
it is interrupted, a lexer that goes on from its snapshot gives the tokens that were left, the same
end mark and the same final stack, and reports what the uninterrupted run reports from there on. -/
theorem resume_snapshot_drain (text : List Char) (opening : Opening) (count : Nat)
    (h : opening ≠ .inside .initial) :
    ∃ start whole before resumed rest, opening.lexer text = .ok start ∧
      start.drain = .ok whole ∧ start.pull count = .ok before ∧
      Lexer.resume text before.lexer.snapshot opening.options = .ok resumed ∧
      resumed.drain = .ok rest ∧ Restarts start whole count before resumed rest := by
  have hsound := (opening.isNew_start text h).isSound
  obtain ⟨tokens, events, last, hreads, hlast, hwhole⟩ :=
    Lexer.exists_reads_of_drain (opening.start text)
  obtain ⟨before, hbefore⟩ := Lexer.exists_pull count (opening.start text)
  have hstands : Lexer.StandsBetween _ (tokens.take count) (tokens.drop count) last before.lexer :=
    (Lexer.StandsBetween.start_self hsound hreads).pull hsound hlast hbefore
  obtain ⟨place, hfront, hlater, hplace⟩ := hstands.exists_place
  have htext : before.lexer.cursor.text = text := hstands.text.trans (Cursor.text_ofText text)
  have hoptions : before.lexer.options = opening.options := hstands.options
  obtain ⟨resumed, hresume, hsame, hnew⟩ := hstands.sound.exists_resume
  rw [htext, hoptions] at hresume
  -- The new lexer reads from the same place, so it comes to an end that matches that of the whole.
  obtain ⟨final, hrest, hend, hfinal⟩ := (hplace.symm.trans hsame).reads_to_end hlater hlast
  obtain ⟨_, hdrain⟩ := hrest.exists_drain hend
  have hlastSound := hsound.reads hreads
  have hfinalSound := hnew.isSound.reads hrest
  refine ⟨opening.start text, _, before, resumed, _, opening.lexer_eq_start text h, hwhole,
    hbefore, hresume, hdrain, ?_⟩
  exact {
    tokens_eq := rfl
    pull_eq := by
      intro more
      obtain ⟨later, hpull⟩ := Lexer.exists_pull more before.lexer
      obtain ⟨again, hagain⟩ := Lexer.exists_pull more resumed
      exact ⟨later, again, hpull, hagain,
        (hsame.pull hstands.sound hnew.isSound hpull hagain).symm⟩
    mark_eq := by
      refine ⟨last.finish.token, ?_, hreads.exists_pull_mark hlast, ?_⟩
      · rw [Lexer.finish_token]
        rfl
      · rw [hfinal.token_finish hlastSound hfinalSound]
        exact hrest.exists_pull_mark hend
    stack_eq := (hfinal.stack_finish hlastSound hfinalSound).symm
    diagnostics_eq := by
      have hcut := (hfront.diagnostics_cut hlater rfl rfl).2
      rw [hrest.diagnostics_finish hnew.finished_eq, hnew.diagnostics_eq, List.nil_append,
        ← hfinal.reportsAhead_eq, ← hcut, ← hplace.offset_eq]
      rfl }

/-- A string is left open behind the modifiers of a sigil, and the snapshot is taken behind two end
marks: the new lexer reports the string once more. -/
theorem resume_snapshot_drain_behind_mark :
    Opening.inside .sigilModifiers ≠ .inside .initial ∧
      ∃ start whole before resumed rest,
        (Opening.inside .sigilModifiers).lexer ['"', 'a'] = .ok start ∧
        start.drain = .ok whole ∧ start.pull 4 = .ok before ∧
        Lexer.resume ['"', 'a'] before.lexer.snapshot
          (Opening.inside .sigilModifiers).options = .ok resumed ∧
        resumed.drain = .ok rest ∧ Restarts start whole 4 before resumed rest :=
  have hmode : Opening.inside .sigilModifiers ≠ .inside .initial := by simp
  ⟨hmode, resume_snapshot_drain _ _ _ hmode⟩

end ElixirLexer
