import ElixirLexer.Lexer.Basic
import ElixirLexer.Proofs.Answers

/-!
# What a step does

`Moves` says once everything that a step before the end of the text can do: some frames on top give
way, the text is read under the frame beneath them, and the match and its transition are carried
out.  Such a step always succeeds, from any lexer whatsoever: no match overruns the text, and
neither the initial frame nor a frame beneath it is ever touched (`exists_moves`).  Later arguments
take the step apart with `cases` and never open the definition of the step again.

At the end of the text a step succeeds too, and the steps behind it change nothing.
-/

namespace ElixirLexer

/-! ## Cursors -/

namespace Cursor

/-- The place behind the next `count` characters, or the end of the text. -/
def skip (cursor : Cursor) (count : Nat) : Cursor :=
  ⟨(cursor.rest.take count).reverse ++ cursor.before, cursor.rest.drop count⟩

theorem advance_eq_skip {cursor : Cursor} {count : Nat} (h : count ≤ cursor.rest.length) :
    cursor.advance count = .ok (cursor.skip count) :=
  if_pos h

@[simp] theorem text_skip (cursor : Cursor) (count : Nat) :
    (cursor.skip count).text = cursor.text := by
  simp [skip, text]

theorem offset_skip {cursor : Cursor} {count : Nat} (h : count ≤ cursor.rest.length) :
    (cursor.skip count).offset = cursor.offset + count := by
  simp [skip, offset, h, Nat.add_comm]

theorem skip_skip (cursor : Cursor) (count more : Nat) :
    (cursor.skip count).skip more = cursor.skip (count + more) := by
  simp [skip, List.take_add]

/-- What is ahead is what the text has behind the offset. -/
theorem rest_eq_drop (cursor : Cursor) : cursor.rest = cursor.text.drop cursor.offset := by
  simp [text, offset]

end Cursor

/-! ## Transitions -/

/-- A transition that suits the mode on top can be carried out. -/
theorem Stack.exists_apply {stack : Stack} {transition : Transition} (offset : Nat)
    (h : transition.Suits stack.top.mode) :
    ∃ next, stack.apply transition offset = .ok next := by
  obtain ⟨above, base⟩ := stack
  cases transition with
  | stay => exact ⟨_, rfl⟩
  | push mode => exact ⟨_, rfl⟩
  | pop =>
      cases above with
      | nil => exact absurd rfl h
      | cons frame below => exact ⟨⟨below, base⟩, rfl⟩
  | replace mode =>
      cases above with
      | nil => exact absurd rfl h.1
      | cons frame below => exact ⟨⟨{ frame with mode } :: below, base⟩, rfl⟩

/-- Only a frame above the initial one is popped. -/
theorem Stack.exists_of_apply_pop {stack next : Stack} {offset : Nat}
    (h : stack.apply .pop offset = .ok next) :
    ∃ frame, stack.above = frame :: next.above ∧ next.base = stack.base := by
  obtain ⟨above, base⟩ := stack
  cases above with
  | nil => simp [apply, Stack.pop, Except.map] at h
  | cons frame below =>
      obtain rfl : ⟨below, base⟩ = next := Except.ok.inj h
      exact ⟨frame, rfl, rfl⟩

/-- Only a frame above the initial one gets another mode. -/
theorem Stack.exists_of_apply_replace {stack next : Stack} {mode : Mode} {offset : Nat}
    (h : stack.apply (.replace mode) offset = .ok next) :
    ∃ frame below, stack.above = frame :: below ∧
      next = ⟨{ frame with mode } :: below, stack.base⟩ := by
  obtain ⟨above, base⟩ := stack
  cases above with
  | nil => simp [apply, Stack.replace] at h
  | cons frame below => exact ⟨frame, below, rfl, (Except.ok.inj h).symm⟩

/-- No transition touches the initial frame. -/
theorem Stack.base_of_apply {stack next : Stack} {transition : Transition} {offset : Nat}
    (h : stack.apply transition offset = .ok next) : next.base = stack.base := by
  cases transition with
  | stay | push =>
      obtain rfl := Except.ok.inj h
      rfl
  | pop =>
      obtain ⟨-, -, hbase⟩ := exists_of_apply_pop h
      exact hbase
  | replace mode =>
      obtain ⟨frame, below, -, rfl⟩ := exists_of_apply_replace h
      rfl

namespace Lexer

/-! ## Choosing a match -/

/-- Frames give way until one of them reads the text; the initial frame always does. -/
theorem exists_choice {cursor : Cursor} (options : Options) (base : Nat) (above : List Frame)
    (hrest : cursor.rest ≠ []) :
    ∃ gone kept found, above = gone ++ kept ∧
      (∀ frame ∈ gone, GivesWay cursor frame.mode) ∧
      Reading cursor (Stack.top ⟨kept, base⟩).mode found ∧
      choose cursor options base above = .ok ⟨found, ⟨kept, base⟩,
        gone.map fun frame => .gaveWay cursor.offset frame.mode.id⟩ := by
  -- Every frame that gives way leaves a shorter list; the initial frame never gives way.
  induction above with
  | nil =>
      cases hclass : classify cursor .initial options with
      | emit found =>
          refine ⟨[], [], found, rfl, by simp, reading_of_emit hrest hclass, ?_⟩
          simp [choose, hclass]
      | giveWay => cases givesWay_of_giveWay hclass
  | cons frame below ih =>
      cases hclass : classify cursor frame.mode options with
      | emit found =>
          refine ⟨[], frame :: below, found, rfl, by simp, reading_of_emit hrest hclass, ?_⟩
          simp [choose, hclass]
      | giveWay =>
          obtain ⟨gone, kept, found, rfl, hgone, hreading, hchoose⟩ := ih
          refine ⟨frame :: gone, kept, found, rfl, ?_, hreading, ?_⟩
          · exact List.forall_mem_cons.mpr ⟨givesWay_of_giveWay hclass, hgone⟩
          · simp [choose, hclass, hchoose, Except.map]

/-- What is chosen is selected under the frame that is left on top. -/
theorem classify_of_choose {cursor : Cursor} {options : Options} {base : Nat} {above : List Frame}
    {choice : Choice} (h : choose cursor options base above = .ok choice) :
    classify cursor choice.stack.top.mode options = .emit choice.found := by
  induction above generalizing choice with
  | nil =>
      rw [choose] at h
      split at h
      · next hclass =>
          obtain rfl := Except.ok.inj h
          exact hclass
      · simp at h
  | cons frame below ih =>
      rw [choose] at h
      split at h
      · next hclass =>
          obtain rfl := Except.ok.inj h
          exact hclass
      · cases hbelow : choose cursor options base below with
        | error fault => simp [hbelow, Except.map] at h
        | ok lower =>
            rw [hbelow] at h
            obtain rfl := Except.ok.inj h
            have hlower := ih hbelow
            exact hlower

/-- Carries out a choice: what a step makes of a match, the stack it was found under and the stack
that its transition leads to. -/
def carryOut (lexer : Lexer) (choice : Choice) (stack : Stack) : Step :=
  let found := choice.found
  let token : Token :=
    ⟨found.kind, ⟨lexer.offset, found.length⟩, stack.top.mode.id, found.indent⟩
  { token
    events := choice.events ++ transitionEvents found.transition choice.stack.depth
      ++ (lexer.badCharacters found).map .badCharacter ++ [.token token]
    lexer := { lexer with
      cursor := lexer.cursor.skip found.length
      stack
      diagnostics := lexer.diagnostics ++ lexer.badCharacters found } }

/-- A choice that fits the text and the stack is carried out. -/
theorem step_eq_carryOut {lexer : Lexer} {choice : Choice} {stack : Stack}
    (hrest : lexer.cursor.rest ≠ [])
    (hchoose : choose lexer.cursor lexer.options lexer.stack.base lexer.stack.above = .ok choice)
    (hlength : choice.found.length ≤ lexer.cursor.rest.length)
    (happly : choice.stack.apply choice.found.transition lexer.offset = .ok stack) :
    lexer.step = .ok (lexer.carryOut choice stack) := by
  have hend : lexer.cursor.atEnd = false := by
    simpa [Cursor.atEnd] using hrest
  have hadvance := Cursor.advance_eq_skip hlength
  simp [step, hend, hchoose, emit, hadvance, happly, carryOut, bind, Except.bind, pure, Except.pure]

/-- What is known of a choice that a step carries out, and of the stack it leads to. -/
structure Chosen (lexer : Lexer) (choice : Choice) (stack : Stack) : Prop where
  choose_eq :
    choose lexer.cursor lexer.options lexer.stack.base lexer.stack.above = .ok choice
  above_eq : ∃ gone, lexer.stack.above = gone ++ choice.stack.above
  reading : Reading lexer.cursor choice.stack.top.mode choice.found
  fits : choice.found.Fits lexer.cursor.rest.length
  apply_eq : choice.stack.apply choice.found.transition lexer.offset = .ok stack

theorem Chosen.length_le {lexer : Lexer} {choice : Choice} {stack : Stack}
    (h : Chosen lexer choice stack) : choice.found.length ≤ lexer.cursor.rest.length :=
  Nat.le_trans h.fits.length_le h.fits.extent_le

/-- Before the end of the text there is a choice, and the step carries it out. -/
theorem exists_chosen {lexer : Lexer} (hrest : lexer.cursor.rest ≠ []) :
    ∃ choice stack, Chosen lexer choice stack ∧
      lexer.step = .ok (lexer.carryOut choice stack) := by
  obtain ⟨gone, kept, found, habove, -, hreading, hchoose⟩ :=
    exists_choice lexer.options lexer.stack.base lexer.stack.above hrest
  have hfits := hreading.fits hrest
  obtain ⟨stack, happly⟩ := Stack.exists_apply lexer.offset hreading.suits
  exact ⟨_, stack, ⟨hchoose, ⟨gone, habove⟩, hreading, hfits, happly⟩,
    step_eq_carryOut hrest hchoose (Nat.le_trans hfits.length_le hfits.extent_le) happly⟩

/-! ## Steps before the end of the text -/

/-- Everything that a step before the end of the text can do. -/
inductive Moves (lexer : Lexer) : Step → Prop
  | mk {gone kept : List Frame} {found : Match} {stack : Stack}
      (habove : lexer.stack.above = gone ++ kept)
      (hgone : ∀ frame ∈ gone, GivesWay lexer.cursor frame.mode)
      (hreading : Reading lexer.cursor (Stack.top ⟨kept, lexer.stack.base⟩).mode found)
      (hfits : found.Fits lexer.cursor.rest.length)
      (happly : Stack.apply ⟨kept, lexer.stack.base⟩ found.transition lexer.offset = .ok stack) :
      Moves lexer {
        token := ⟨found.kind, ⟨lexer.offset, found.length⟩, stack.top.mode.id, found.indent⟩
        events := gone.map (fun frame => .gaveWay lexer.offset frame.mode.id)
          ++ transitionEvents found.transition kept.length
          ++ (lexer.badCharacters found).map .badCharacter
          ++ [.token ⟨found.kind, ⟨lexer.offset, found.length⟩, stack.top.mode.id, found.indent⟩]
        lexer := { lexer with
          cursor := lexer.cursor.skip found.length
          stack
          diagnostics := lexer.diagnostics ++ lexer.badCharacters found } }

/-- Before the end of the text a step succeeds, whatever the lexer. -/
theorem exists_moves {lexer : Lexer} (hrest : lexer.cursor.rest ≠ []) :
    ∃ step, lexer.step = .ok step ∧ Moves lexer step := by
  obtain ⟨gone, kept, found, habove, hgone, hreading, hchoose⟩ :=
    exists_choice lexer.options lexer.stack.base lexer.stack.above hrest
  have hfits := hreading.fits hrest
  have hlength := Nat.le_trans hfits.length_le hfits.extent_le
  obtain ⟨stack, happly⟩ := Stack.exists_apply lexer.offset hreading.suits
  exact ⟨_, step_eq_carryOut hrest hchoose hlength happly,
    .mk habove hgone hreading hfits happly⟩

theorem moves_of_step {lexer : Lexer} {step : Step} (hrest : lexer.cursor.rest ≠ [])
    (h : lexer.step = .ok step) : Moves lexer step := by
  obtain ⟨moved, hmoved, hmoves⟩ := exists_moves hrest
  obtain rfl := Except.ok.inj (h.symm.trans hmoved)
  exact hmoves

namespace Moves

variable {lexer : Lexer} {step : Step}

theorem token_start (h : Moves lexer step) : step.token.span.start = lexer.offset := by
  cases h
  rfl

theorem token_length_pos (h : Moves lexer step) : 0 < step.token.span.length := by
  cases h with
  | mk habove hgone hreading hfits happly => exact hfits.pos

/-- The lexer goes on where the token ends. -/
theorem offset (h : Moves lexer step) : step.lexer.offset = step.token.span.stop := by
  cases h with
  | mk habove hgone hreading hfits happly =>
      exact Cursor.offset_skip (Nat.le_trans hfits.length_le hfits.extent_le)

theorem text (h : Moves lexer step) : step.lexer.cursor.text = lexer.cursor.text := by
  cases h
  exact Cursor.text_skip _ _

theorem options (h : Moves lexer step) : step.lexer.options = lexer.options := by
  cases h
  rfl

theorem finished (h : Moves lexer step) : step.lexer.finished = lexer.finished := by
  cases h
  rfl

theorem token_ne_endOfInput (h : Moves lexer step) : step.token.kind ≠ .endOfInput := by
  cases h with
  | mk habove hgone hreading hfits happly => exact hreading.kind_ne_endOfInput

end Moves

/-! ## Steps at the end of the text -/

theorem step_of_rest_nil {lexer : Lexer} (hrest : lexer.cursor.rest = []) :
    lexer.step = .ok lexer.finish := by
  simp [step, Cursor.atEnd, hrest]

theorem finish_token (lexer : Lexer) :
    lexer.finish.token = Token.endMark lexer.offset lexer.finish.lexer.stack.top.mode.id := by
  unfold finish
  split <;> rfl

theorem finish_cursor (lexer : Lexer) : lexer.finish.lexer.cursor = lexer.cursor := by
  unfold finish
  split <;> rfl

theorem finish_finished (lexer : Lexer) : lexer.finish.lexer.finished = true := by
  unfold finish
  split
  · next h => exact h
  · rfl

/-- The end is reported once: the steps behind the first end mark only repeat the mark. -/
theorem finish_finish (lexer : Lexer) :
    lexer.finish.lexer.finish = ⟨lexer.finish.token, [], lexer.finish.lexer⟩ := by
  have hmark := finish_token lexer
  have hcursor := finish_cursor lexer
  rw [finish, if_pos (finish_finished lexer), hmark, Lexer.offset, Lexer.offset, hcursor]

/-- A step succeeds from every lexer. -/
theorem exists_step (lexer : Lexer) : ∃ step, lexer.step = .ok step := by
  by_cases hrest : lexer.cursor.rest = []
  · exact ⟨_, step_of_rest_nil hrest⟩
  · obtain ⟨step, hstep, -⟩ := exists_moves hrest
    exact ⟨step, hstep⟩

end Lexer

end ElixirLexer
