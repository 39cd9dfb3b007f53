import ElixirLexer.Proofs.Snapshots
import ElixirLexer.Proofs.StackShape

/-!
# No report is made twice

All that a lexer reports on its way through a text is different
(`Lexer.Reads.nodup_diagnostics_finish`).  The bad characters stand at different places, and in
front of the end.  The frames that are left at the end were opened at different places too, with one
exception: a lexer that is opened inside a mode can find the next construct at the very start of the
text.  An interpolation then lies on a literal or a literal on an interpolation, so the two lack
different ends.
-/

namespace ElixirLexer

/-! ## Frames that can be told apart -/

/-- Two frames were opened at different places, or only one of them is interpolated code. -/
def Frame.Differ (upper lower : Frame) : Prop :=
  upper.openedAt = lower.openedAt → upper.mode.isInterpolation ≠ lower.mode.isInterpolation

/-- The frames above the initial one, top first, when the lexer stands at an offset: they can be
told apart, and only the top one may have been opened right here. -/
structure Staggered (offset : Nat) (above : List Frame) : Prop where
  openedAt_le : ∀ frame ∈ above, frame.openedAt ≤ offset
  openedAt_lt : ∀ frame ∈ above.tail, frame.openedAt < offset
  differ : above.Pairwise Frame.Differ

namespace Staggered

variable {offset later : Nat} {above gone kept below : List Frame} {frame : Frame} {mode : Mode}

/-- The frames beneath others. -/
theorem of_append (h : Staggered offset (gone ++ kept)) : Staggered offset kept where
  openedAt_le := (List.forall_mem_append.mp h.openedAt_le).2
  openedAt_lt := by
    intro frame hmem
    refine h.openedAt_lt frame ?_
    cases gone with
    | nil => exact hmem
    | cons first others => exact List.mem_append_right _ (List.mem_of_mem_tail hmem)
  differ := (List.pairwise_append.mp h.differ).2.1

theorem pop (h : Staggered offset (frame :: below)) : Staggered offset below :=
  of_append (show Staggered offset ([frame] ++ below) from h)

theorem advance (h : Staggered offset above) (hlt : offset < later) : Staggered later above where
  openedAt_le frame hmem := Nat.le_trans (h.openedAt_le frame hmem) (Nat.le_of_lt hlt)
  openedAt_lt frame hmem := Nat.lt_trans (h.openedAt_lt frame hmem) hlt
  differ := h.differ

/-- A frame that is opened here differs from that beneath it. -/
theorem push (h : Staggered offset kept)
    (hhead : ∀ top, kept.head? = some top → mode.isInterpolation ≠ top.mode.isInterpolation)
    (hlt : offset < later) : Staggered later (⟨mode, offset⟩ :: kept) where
  openedAt_le := by
    refine List.forall_mem_cons.mpr ⟨Nat.le_of_lt hlt, ?_⟩
    exact (h.advance hlt).openedAt_le
  openedAt_lt frame hmem := Nat.lt_of_le_of_lt (h.openedAt_le frame hmem) hlt
  differ := by
    refine List.pairwise_cons.mpr ⟨?_, h.differ⟩
    cases kept with
    | nil => simp
    | cons top lower =>
        -- Of the frames beneath, only the first can have been opened here as well.
        refine List.forall_mem_cons.mpr ⟨fun _ => hhead top rfl, ?_⟩
        intro frame hmem heq
        have hbefore := h.openedAt_lt frame hmem
        have hsame : offset = frame.openedAt := heq
        omega

theorem replace (h : Staggered offset (frame :: below))
    (hsame : mode.isInterpolation = frame.mode.isInterpolation) :
    Staggered offset ({ frame with mode } :: below) where
  openedAt_le := List.forall_mem_cons.mpr (List.forall_mem_cons.mp h.openedAt_le)
  openedAt_lt := h.openedAt_lt
  differ := by
    obtain ⟨hfirst, hbelow⟩ := List.pairwise_cons.mp h.differ
    refine List.pairwise_cons.mpr ⟨?_, hbelow⟩
    intro lower hmem heq
    show mode.isInterpolation ≠ lower.mode.isInterpolation
    rw [hsame]
    exact hfirst lower hmem heq

end Staggered

/-! ## What a reading makes of them -/

namespace Reading

variable {cursor : Cursor} {mode next : Mode} {found : Match}

/-- A mode that takes the place of another is interpolated code only if the other was. -/
theorem isInterpolation_of_replace (h : Reading cursor mode found)
    (htransition : found.transition = .replace next) :
    next.isInterpolation = mode.isInterpolation := by
  cases h with
  | groupTerminator hdepth hrest =>
      obtain ⟨-, -, rfl⟩ := eq_of_closing_eq_replace htransition
      rfl
  | heredocTerminator hstart hwidth =>
      obtain ⟨-, -, rfl⟩ := eq_of_closing_eq_replace htransition
      rfl
  | groupBody hpos =>
      rw [Group.eq_of_deepened_eq_replace htransition]
      rfl
  | openBrace | closeBrace | sigilName | sigilHeredoc | sigilDelimiter | heredocOpeningEol =>
      obtain rfl := Transition.replace.inj htransition
      rfl
  | _ => simp [Match.plain, Match.moving] at htransition

/-- A literal is opened in code and interpolated code in a literal. -/
theorem isInterpolation_of_push (h : Reading cursor mode found)
    (htransition : found.transition = .push next) (hmode : mode ≠ .initial) :
    next.isInterpolation ≠ mode.isInterpolation := by
  obtain ⟨-, hmodes, -⟩ := h.opened_of_push htransition
  rcases hmodes with ⟨hliteral, hcode⟩ | ⟨hinterpolation, hinterpolating⟩
  · rw [Mode.isInterpolation_eq_false hliteral]
    cases mode <;> simp_all [Mode.isCode, Mode.isInterpolation]
  · rw [hinterpolation]
    cases mode <;> simp_all [Mode.isInterpolating, Mode.isInterpolation]

end Reading

/-- Every reading keeps the frames apart. -/
theorem Staggered.apply {cursor : Cursor} {kept : List Frame} {base later : Nat} {found : Match}
    {stack : Stack} (h : Staggered cursor.offset kept)
    (hinitial : ∀ frame ∈ kept, frame.mode ≠ .initial)
    (hreading : Reading cursor (Stack.top ⟨kept, base⟩).mode found)
    (happly : Stack.apply ⟨kept, base⟩ found.transition cursor.offset = .ok stack)
    (hlt : cursor.offset < later) : Staggered later stack.above := by
  cases htransition : found.transition with
  | stay =>
      rw [htransition] at happly
      obtain rfl := Except.ok.inj happly
      exact h.advance hlt
  | push inner =>
      rw [htransition] at happly
      obtain rfl := Except.ok.inj happly
      refine h.push ?_ hlt
      intro top htop
      obtain ⟨below, rfl⟩ := List.head?_eq_some_iff.mp htop
      exact hreading.isInterpolation_of_push htransition (hinitial top List.mem_cons_self)
  | pop =>
      rw [htransition] at happly
      obtain ⟨frame, hkept, -⟩ := Stack.exists_of_apply_pop happly
      obtain rfl : kept = frame :: stack.above := hkept
      exact (h.advance hlt).pop
  | replace next =>
      rw [htransition] at happly
      obtain ⟨frame, below, hkept, rfl⟩ := Stack.exists_of_apply_replace happly
      obtain rfl : kept = frame :: below := hkept
      exact (h.advance hlt).replace (hreading.isInterpolation_of_replace htransition)

namespace Lexer

/-- A reading keeps the frames apart. -/
theorem Reads.staggered {start last : Lexer} {tokens : List Token} (h : Reads start tokens last)
    (hsound : start.IsSound) (hstart : Staggered start.offset start.stack.above) :
    Staggered last.offset last.stack.above := by
  induction h with
  | refl => exact hstart
  | @snoc tokens last step before hrest hstep ih =>
      have hinitial := (hsound.reads before).ne_initial
      have hmoves := moves_of_step hrest hstep
      have hlt : last.offset < step.lexer.offset := by
        have hpos := hmoves.token_length_pos
        rw [hmoves.offset, ← hmoves.token_start]
        exact Nat.lt_add_of_pos_right hpos
      cases hmoves with
      | mk habove hgone hreading hfits happly =>
          rw [habove] at ih hinitial
          exact ih.of_append.apply (List.forall_mem_append.mp hinitial).2 hreading happly hlt

end Lexer

/-! ## Reports -/

/-- Tokens stand one behind the other. -/
theorem Tiles.pairwise_start {start stop : Nat} {tokens : List Token}
    (h : Tiles start tokens stop) :
    tokens.Pairwise fun first second => first.span.start < second.span.start := by
  induction tokens generalizing start with
  | nil => exact .nil
  | cons first later ih =>
      obtain ⟨-, hpos, hlater⟩ := h
      refine List.pairwise_cons.mpr ⟨?_, ih hlater⟩
      intro second hmem
      have hbounds := hlater.start_bounds second hmem
      simp only [Span.stop] at hbounds
      omega

/-- Bad characters are reported at different places. -/
theorem Tiles.nodup_reports {text : List Char} {options : Options} {start stop : Nat}
    {tokens : List Token} (h : Tiles start tokens stop) :
    (reports text options tokens).Nodup := by
  unfold reports
  split
  · refine List.pairwise_filterMap.mpr (h.pairwise_start.imp ?_)
    intro first second hlt report hreport other hother heq
    rw [← Token.offset_of_report? hreport, ← Token.offset_of_report? hother, heq] at hlt
    exact Nat.lt_irrefl _ hlt
  · exact List.nodup_nil

/-- Only interpolated code lacks the end of an interpolation. -/
theorem Problem.isInterpolation_of_ofOpen? {mode : Mode} {problem : Problem}
    (h : ofOpen? mode = some problem) :
    mode.isInterpolation = decide (problem = .unterminatedInterpolation) := by
  cases mode with
  | group group =>
      simp only [ofOpen?] at h
      cases hliteral : group.literal <;> rw [hliteral] at h <;> obtain rfl := Option.some.inj h <;>
        rfl
  | initial | sigilModifiers => simp [ofOpen?] at h
  | _ =>
      obtain rfl := Option.some.inj h
      rfl

/-- Frames that can be told apart are reported differently. -/
theorem Lexer.nodup_unterminated {stack : Stack} {offset : Nat}
    (h : stack.above.Pairwise Frame.Differ) : (unterminated stack offset).Nodup := by
  refine List.pairwise_filterMap.mpr (h.imp ?_)
  intro upper lower hdiffer report hreport other hother heq
  obtain ⟨problem, hproblem, rfl⟩ := Option.map_eq_some_iff.mp hreport
  obtain ⟨again, hagain, rfl⟩ := Option.map_eq_some_iff.mp hother
  obtain ⟨rfl, -, hopened⟩ := Diagnostic.mk.inj heq
  refine hdiffer hopened ?_
  rw [Problem.isInterpolation_of_ofOpen? hproblem, Problem.isInterpolation_of_ofOpen? hagain]

/-- The reports of a run to the end of the text are all different. -/
theorem Lexer.Reads.nodup_diagnostics_finish {start last : Lexer} {tokens : List Token}
    (h : Reads start tokens last) (hnew : start.IsNew)
    (hstart : Staggered start.offset start.stack.above) :
    last.finish.lexer.diagnostics.Nodup := by
  rw [h.diagnostics_finish hnew.finished_eq, hnew.diagnostics_eq, List.nil_append, reportsAhead]
  have hdiffer := (h.staggered hnew.isSound hstart).differ
  refine List.nodup_append.mpr ⟨h.tiles.nodup_reports, nodup_unterminated ?_, ?_⟩
  · exact hdiffer.sublist (List.dropWhile_suffix _).sublist
  · -- A bad character stands in front of the end, where the frames are reported.
    intro report hreport other hother heq
    have hbefore := (h.offset_bounds report hreport).2
    rw [heq, offset_eq_of_mem_unterminated hother] at hbefore
    exact Nat.lt_irrefl _ hbefore

/-- A new lexer has at most one frame above the initial one. -/
theorem Opening.staggered_start (opening : Opening) (text : List Char) :
    Staggered (opening.start text).offset (opening.start text).stack.above := by
  cases opening with
  | plain options => exact ⟨by simp [start, above], by simp [start, above], .nil⟩
  | inside mode =>
      refine ⟨?_, by simp [start, above], List.pairwise_singleton _ _⟩
      intro frame hmem
      obtain rfl := List.mem_singleton.mp hmem
      exact Nat.zero_le _

end ElixirLexer
