import Mathlib.Data.List.DropRight
import ElixirLexer.Lexer.Session
import ElixirLexer.Proofs.Reports

/-!
# What a snapshot keeps

A snapshot keeps the offset and the frames of a lexer, and forgets what has been reported and
whether the end has been.  Two lexers that differ only in what a snapshot forgets are in the
`SamePlace`: they read the same tokens and come to the same places, and to the same end.  One
difference in the frames is tolerated as well.  At the end of the text the frame of the modifiers of
a sigil may be on one stack and no longer on the other, because a snapshot may be taken in front of
the end mark or behind it.

So a lexer that is taken to snapshots again and again always stands where some of the tokens of a
text have been read and the others are ahead: `StandsBetween` names these two lists.  A step moves
one token from the second list to the first, and going to a snapshot brings back the lists of the
place where the snapshot was taken.

Nothing is asked about the shape of the stack here, so what holds of the same place holds of a lexer
that was opened inside any mode, or that goes on in a text from a snapshot of another.
-/

namespace ElixirLexer

/-! ## Places -/

theorem Cursor.atOffset_offset (cursor : Cursor) :
    atOffset cursor.text cursor.offset = .ok cursor := by
  have hle : cursor.offset ≤ cursor.text.length := by
    have hlength := cursor.offset_add_remaining
    omega
  obtain ⟨before, rest⟩ := cursor
  rw [atOffset, if_pos hle]
  simp [text, offset]

/-- A stack that is rebuilt from frames has its initial frame at the bottom only. -/
theorem Stack.ne_initial_of_ofFrames {frames : List Frame} {stack : Stack}
    (h : ofFrames frames = .ok stack) : ∀ frame ∈ stack.above, frame.mode ≠ .initial := by
  cases frames with
  | nil => simp [ofFrames] at h
  | cons bottom higher =>
      simp only [ofFrames] at h
      split at h
      · simp at h
      · split at h
        · simp at h
        · next hany =>
            obtain rfl := Except.ok.inj h
            simpa using hany

/-- A transition that suits the mode on top puts no initial frame on the stack. -/
theorem Stack.ne_initial_of_apply {kept : List Frame} {base offset : Nat} {stack : Stack}
    {transition : Transition} (happly : apply ⟨kept, base⟩ transition offset = .ok stack)
    (hsuits : transition.Suits (Stack.top ⟨kept, base⟩).mode)
    (h : ∀ frame ∈ kept, frame.mode ≠ .initial) :
    ∀ frame ∈ stack.above, frame.mode ≠ .initial := by
  cases transition with
  | stay =>
      obtain rfl := Except.ok.inj happly
      exact h
  | push inner =>
      obtain rfl := Except.ok.inj happly
      exact List.forall_mem_cons.mpr ⟨hsuits, h⟩
  | pop =>
      obtain ⟨frame, hkept, -⟩ := exists_of_apply_pop happly
      obtain rfl : kept = frame :: stack.above := hkept
      exact (List.forall_mem_cons.mp h).2
  | replace next =>
      obtain ⟨frame, below, hkept, rfl⟩ := exists_of_apply_replace happly
      obtain rfl : kept = frame :: below := hkept
      exact List.forall_mem_cons.mpr ⟨hsuits.2, (List.forall_mem_cons.mp h).2⟩

namespace Lexer

/-- Dropping the modifiers leaves none to drop. -/
theorem withoutModifiers_withoutModifiers (stack : Stack) :
    withoutModifiers (withoutModifiers stack) = withoutModifiers stack := by
  simp only [withoutModifiers, List.dropWhile_idempotent]

/-! ## Sound lexers -/

/-- What holds of a lexer however it was opened: snapshots can be taken of it, and if the end of the
text has been reported, it stands there and has dropped the modifiers. -/
structure IsSound (lexer : Lexer) : Prop where
  ne_initial : ∀ frame ∈ lexer.stack.above, frame.mode ≠ .initial
  settled : lexer.finished = true →
    lexer.cursor.rest = [] ∧ withoutModifiers lexer.stack = lexer.stack

namespace IsSound

variable {lexer : Lexer}

/-- A lexer that has not reported the end. -/
theorem of_unfinished (h : ∀ frame ∈ lexer.stack.above, frame.mode ≠ .initial)
    (hfinished : lexer.finished = false) : lexer.IsSound where
  ne_initial := h
  settled htrue := by simp [hfinished] at htrue

theorem finished_eq_false (h : lexer.IsSound) (hrest : lexer.cursor.rest ≠ []) :
    lexer.finished = false := by
  cases hfinished : lexer.finished with
  | false => rfl
  | true => exact absurd (h.settled hfinished).1 hrest

theorem moves {step : Step} (h : lexer.IsSound) (hrest : lexer.cursor.rest ≠ [])
    (hmoves : Moves lexer step) : step.lexer.IsSound := by
  have hfinished := hmoves.finished
  rw [h.finished_eq_false hrest] at hfinished
  refine .of_unfinished ?_ hfinished
  cases hmoves with
  | mk habove hgone hreading hfits happly =>
      have hkept := h.ne_initial
      rw [habove] at hkept
      exact Stack.ne_initial_of_apply happly hreading.suits
        (List.forall_mem_append.mp hkept).2

theorem stack_finish (h : lexer.IsSound) :
    lexer.finish.lexer.stack = withoutModifiers lexer.stack := by
  cases hfinished : lexer.finished with
  | false => exact finish_stack hfinished
  | true =>
      rw [(h.settled hfinished).2]
      simp [finish, hfinished]

theorem finish (h : lexer.IsSound) (hrest : lexer.cursor.rest = []) :
    lexer.finish.lexer.IsSound := by
  have hstack := h.stack_finish
  refine ⟨?_, ?_⟩
  · rw [hstack]
    intro frame hmem
    exact h.ne_initial frame ((List.dropWhile_suffix _).subset hmem)
  · intro _
    rw [finish_cursor, hstack, withoutModifiers_withoutModifiers]
    exact ⟨hrest, rfl⟩

theorem step {next : Step} (h : lexer.IsSound) (hstep : lexer.step = .ok next) :
    next.lexer.IsSound := by
  by_cases hrest : lexer.cursor.rest = []
  · obtain rfl := Except.ok.inj ((step_of_rest_nil hrest).symm.trans hstep)
    exact h.finish hrest
  · exact h.moves hrest (moves_of_step hrest hstep)

theorem reads {last : Lexer} {tokens : List Token} (h : lexer.IsSound)
    (hreads : Reads lexer tokens last) : last.IsSound := by
  induction hreads with
  | refl => exact h
  | snoc before hrest hstep ih => exact ih.step hstep

theorem pull {count : Nat} {run : Run} (h : lexer.IsSound) (hpull : lexer.pull count = .ok run) :
    run.lexer.IsSound :=
  pull_invariant (fun _ _ hsound hstep => hsound.step hstep) h hpull

end IsSound

/-- A lexer that has reported nothing yet. -/
structure IsNew (lexer : Lexer) : Prop where
  ne_initial : ∀ frame ∈ lexer.stack.above, frame.mode ≠ .initial
  diagnostics_eq : lexer.diagnostics = []
  finished_eq : lexer.finished = false

theorem IsNew.isSound {lexer : Lexer} (h : lexer.IsNew) : lexer.IsSound :=
  .of_unfinished h.ne_initial h.finished_eq

/-! ## The same place -/

/-- Two lexers go on in the same way.  What they have reported may differ. -/
structure SamePlace (first second : Lexer) : Prop where
  cursor_eq : first.cursor = second.cursor
  options_eq : first.options = second.options
  stack_eq : first.cursor.rest ≠ [] → first.stack = second.stack
  /-- At the end of the text the modifiers may wait in only one of the two. -/
  withoutModifiers_eq : withoutModifiers first.stack = withoutModifiers second.stack

/-- Before the end of the text a step looks neither at what has been reported nor at whether the end
has been, and carries both along. -/
theorem step_eq_map {lexer : Lexer} (hrest : lexer.cursor.rest ≠ []) :
    lexer.step = (step { lexer with diagnostics := [], finished := false }).map fun plain =>
      { plain with lexer := { plain.lexer with
          diagnostics := lexer.diagnostics ++ plain.lexer.diagnostics
          finished := lexer.finished } } := by
  have hend : lexer.cursor.atEnd = false := by
    simpa [Cursor.atEnd] using hrest
  obtain ⟨cursor, stack, options, diagnostics, finished⟩ := lexer
  simp only [step, hend, bind, Except.bind]
  cases choose cursor options stack.base stack.above with
  | error fault => rfl
  | ok choice =>
      simp only [emit, bind, Except.bind]
      cases cursor.advance choice.found.length with
      | error fault => rfl
      | ok moved =>
          simp only [Lexer.offset]
          cases choice.stack.apply choice.found.transition cursor.offset with
          | error fault => rfl
          | ok next => rfl

namespace SamePlace

variable {first second third : Lexer}

theorem refl (lexer : Lexer) : SamePlace lexer lexer :=
  ⟨rfl, rfl, fun _ => rfl, rfl⟩

theorem symm (h : SamePlace first second) : SamePlace second first where
  cursor_eq := h.cursor_eq.symm
  options_eq := h.options_eq.symm
  stack_eq hrest := by
    rw [← h.cursor_eq] at hrest
    exact (h.stack_eq hrest).symm
  withoutModifiers_eq := h.withoutModifiers_eq.symm

theorem trans (h : SamePlace first second) (later : SamePlace second third) :
    SamePlace first third where
  cursor_eq := h.cursor_eq.trans later.cursor_eq
  options_eq := h.options_eq.trans later.options_eq
  stack_eq hrest := by
    rw [h.stack_eq hrest]
    rw [h.cursor_eq] at hrest
    exact later.stack_eq hrest
  withoutModifiers_eq := h.withoutModifiers_eq.trans later.withoutModifiers_eq

theorem offset_eq (h : SamePlace first second) : first.offset = second.offset :=
  congrArg Cursor.offset h.cursor_eq

/-- Behind the end mark a lexer is where it was in front of the mark. -/
theorem finish_self (h : first.IsSound) (hrest : first.cursor.rest = []) :
    SamePlace first.finish.lexer first where
  cursor_eq := finish_cursor first
  options_eq := by
    unfold Lexer.finish
    split <;> rfl
  stack_eq hne := by
    rw [finish_cursor] at hne
    exact absurd hrest hne
  withoutModifiers_eq := by
    rw [h.stack_finish, withoutModifiers_withoutModifiers]

/-- Before the end of the text the same token is read, and leads to the same place. -/
theorem moves {step : Step} (h : SamePlace first second) (hrest : first.cursor.rest ≠ [])
    (hstep : first.step = .ok step) :
    ∃ other, second.step = .ok other ∧ other.token = step.token ∧
      SamePlace step.lexer other.lexer := by
  have hend : second.cursor.rest ≠ [] := by rwa [← h.cursor_eq]
  obtain ⟨plain, hplain⟩ := exists_step { first with diagnostics := [], finished := false }
  have hfirst := step_eq_map hrest
  have hsecond := step_eq_map hend
  rw [← h.cursor_eq, ← h.stack_eq hrest, ← h.options_eq] at hsecond
  rw [hplain] at hfirst hsecond
  obtain rfl := Except.ok.inj (hfirst.symm.trans hstep)
  exact ⟨_, hsecond, rfl, rfl, rfl, fun _ => rfl, rfl⟩

/-- The same tokens are read. -/
theorem reads {last : Lexer} {tokens : List Token} (h : SamePlace first second)
    (hreads : Reads first tokens last) :
    ∃ other, Reads second tokens other ∧ SamePlace last other := by
  induction hreads with
  | refl => exact ⟨second, .refl, h⟩
  | @snoc tokens last step before hrest hstep ih =>
      obtain ⟨other, hother, hplace⟩ := ih
      obtain ⟨next, hnext, htoken, hmoved⟩ := hplace.moves hrest hstep
      rw [hplace.cursor_eq] at hrest
      rw [← htoken]
      exact ⟨next.lexer, .snoc hother hrest hnext, hmoved⟩

/-- The same tokens are read up to the end of the text. -/
theorem reads_to_end {last : Lexer} {tokens : List Token} (h : SamePlace first second)
    (hreads : Reads first tokens last) (hlast : last.cursor.rest = []) :
    ∃ other, Reads second tokens other ∧ other.cursor.rest = [] ∧ SamePlace last other := by
  obtain ⟨other, hother, hplace⟩ := h.reads hreads
  exact ⟨other, hother, by rw [← hplace.cursor_eq, hlast], hplace⟩

/-- At the end of the text the same frames are left. -/
theorem stack_finish (h : SamePlace first second) (hfirst : first.IsSound)
    (hsecond : second.IsSound) : first.finish.lexer.stack = second.finish.lexer.stack := by
  rw [hfirst.stack_finish, hsecond.stack_finish, h.withoutModifiers_eq]

/-- At the end of the text the same mark is given. -/
theorem token_finish (h : SamePlace first second) (hfirst : first.IsSound)
    (hsecond : second.IsSound) : first.finish.token = second.finish.token := by
  rw [finish_token, finish_token, h.offset_eq, h.stack_finish hfirst hsecond]

/-- Everywhere the same token is given. -/
theorem step {step other : Step} (h : SamePlace first second) (hfirst : first.IsSound)
    (hsecond : second.IsSound) (hstep : first.step = .ok step)
    (hother : second.step = .ok other) :
    step.token = other.token ∧ SamePlace step.lexer other.lexer := by
  by_cases hrest : first.cursor.rest = []
  · have hend : second.cursor.rest = [] := by rw [← h.cursor_eq, hrest]
    obtain rfl := Except.ok.inj ((step_of_rest_nil hrest).symm.trans hstep)
    obtain rfl := Except.ok.inj ((step_of_rest_nil hend).symm.trans hother)
    refine ⟨h.token_finish hfirst hsecond, ?_⟩
    exact ((finish_self hfirst hrest).trans h).trans (finish_self hsecond hend).symm
  · obtain ⟨next, hnext, htoken, hplace⟩ := h.moves hrest hstep
    obtain rfl := Except.ok.inj (hnext.symm.trans hother)
    exact ⟨htoken.symm, hplace⟩

/-- Any number of steps gives the same tokens. -/
theorem pull {count : Nat} {run other : Run} (h : SamePlace first second) (hfirst : first.IsSound)
    (hsecond : second.IsSound) (hrun : first.pull count = .ok run)
    (hother : second.pull count = .ok other) : run.tokens = other.tokens := by
  induction count generalizing first second run other with
  | zero =>
      obtain rfl := Except.ok.inj hrun
      obtain rfl := Except.ok.inj hother
      rfl
  | succ count ih =>
      obtain ⟨left, hleft⟩ := exists_step first
      obtain ⟨right, hright⟩ := exists_step second
      obtain ⟨leftLater, hleftLater⟩ := exists_pull count left.lexer
      obtain ⟨rightLater, hrightLater⟩ := exists_pull count right.lexer
      obtain ⟨htoken, hplace⟩ := h.step hfirst hsecond hleft hright
      have hlater := ih hplace (hfirst.step hleft) (hsecond.step hright) hleftLater hrightLater
      simp only [Lexer.pull, hleft, hleftLater, bind, Except.bind, pure, Except.pure] at hrun
      simp only [Lexer.pull, hright, hrightLater, bind, Except.bind, pure, Except.pure] at hother
      obtain rfl := Except.ok.inj hrun
      obtain rfl := Except.ok.inj hother
      rw [htoken, hlater]

/-- The same is reported ahead of the end. -/
theorem reportsAhead_eq (h : SamePlace first second) (later : List Token) :
    reportsAhead first later = reportsAhead second later := by
  rw [reportsAhead, reportsAhead, h.cursor_eq, h.options_eq, h.withoutModifiers_eq, h.offset_eq]

end SamePlace

/-! ## Going to a snapshot -/

theorem IsSound.stack_snapshot {lexer : Lexer} (h : lexer.IsSound) :
    lexer.snapshot.stack = .ok lexer.stack :=
  Stack.ofFrames_frames h.ne_initial

/-- A lexer that goes on from a snapshot stands where the snapshot was taken. -/
theorem IsSound.resume_snapshot {lexer : Lexer} (h : lexer.IsSound) (options : Options) :
    resume lexer.cursor.text lexer.snapshot options =
      .ok ⟨lexer.cursor, lexer.stack, options, [], false⟩ := by
  have hcursor : Cursor.atOffset lexer.cursor.text lexer.snapshot.offset = .ok lexer.cursor :=
    lexer.cursor.atOffset_offset
  simp [resume, hcursor, h.stack_snapshot, bind, Except.bind, pure, Except.pure]

/-- Going on from a snapshot with the same options only forgets what has been reported. -/
theorem IsSound.exists_resume {lexer : Lexer} (h : lexer.IsSound) :
    ∃ resumed, resume lexer.cursor.text lexer.snapshot lexer.options = .ok resumed ∧
      SamePlace lexer resumed ∧ resumed.IsNew :=
  ⟨_, h.resume_snapshot lexer.options, ⟨rfl, rfl, fun _ => rfl, rfl⟩, h.ne_initial, rfl, rfl⟩

/-- A lexer that is taken to a snapshot of the same text stands where the snapshot was taken, and
keeps what was reported in front of it. -/
theorem IsSound.restore_snapshot {lexer target : Lexer} (h : target.IsSound)
    (htext : lexer.cursor.text = target.cursor.text) :
    lexer.restore target.snapshot = (.ok (), { lexer with
      cursor := target.cursor
      stack := target.stack
      diagnostics := lexer.diagnostics.filter fun diagnostic =>
        diagnostic.offset < target.offset
      finished := false }) := by
  have hcursor : Cursor.atOffset lexer.cursor.text target.snapshot.offset = .ok target.cursor := by
    rw [htext]
    exact target.cursor.atOffset_offset
  simp only [restore, hcursor, h.stack_snapshot]
  rfl

/-! ## On the way through a text -/

/-- `lexer` stands where `front` has been read from `start` and `later` leads on to `last`, whatever
has been reported. -/
structure StandsBetween (start : Lexer) (front later : List Token) (last lexer : Lexer) :
    Prop where
  exists_place : ∃ place, Reads start front place ∧ Reads place later last ∧ SamePlace lexer place
  sound : lexer.IsSound

namespace StandsBetween

variable {start last lexer target : Lexer} {front later before behind : List Token}

theorem start_self (hsound : start.IsSound) (hreads : Reads start later last) :
    StandsBetween start [] later last start :=
  ⟨⟨start, .refl, hreads, .refl start⟩, hsound⟩

theorem text (h : StandsBetween start front later last lexer) :
    lexer.cursor.text = start.cursor.text := by
  obtain ⟨place, hfront, -, hplace⟩ := h.exists_place
  rw [hplace.cursor_eq, hfront.text]

theorem options (h : StandsBetween start front later last lexer) :
    lexer.options = start.options := by
  obtain ⟨place, hfront, -, hplace⟩ := h.exists_place
  rw [hplace.options_eq, hfront.options]

theorem reads (h : StandsBetween start front later last lexer) :
    Reads start (front ++ later) last := by
  obtain ⟨place, hfront, hlater, -⟩ := h.exists_place
  exact hfront.trans hlater

/-- Where no token is ahead, a lexer has come to the end. -/
theorem samePlace_last (h : StandsBetween start front [] last lexer) : SamePlace lexer last := by
  obtain ⟨place, -, hlater, hplace⟩ := h.exists_place
  rwa [hlater.eq_of_nil]

/-- Where a token is ahead, the text goes on. -/
theorem rest_ne_nil {token : Token} (h : StandsBetween start front (token :: later) last lexer) :
    lexer.cursor.rest ≠ [] := by
  obtain ⟨place, -, hlater, hplace⟩ := h.exists_place
  obtain ⟨-, hrest, -⟩ := hlater.exists_of_cons
  rwa [hplace.cursor_eq]

/-- A step gives the token ahead, or the mark, and leads behind it. -/
theorem step {next : Step} (h : StandsBetween start front later last lexer)
    (hstart : start.IsSound) (hlast : last.cursor.rest = []) (hstep : lexer.step = .ok next) :
    next.token = later.headD last.finish.token ∧
      StandsBetween start (front ++ later.take 1) (later.drop 1) last next.lexer := by
  have hnext := h.sound.step hstep
  cases later with
  | nil =>
      have hsame := h.samePlace_last
      have hrest : lexer.cursor.rest = [] := by rw [hsame.cursor_eq, hlast]
      obtain rfl := Except.ok.inj ((step_of_rest_nil hrest).symm.trans hstep)
      -- The end mark leaves the place as it is; the modifiers may be dropped there.
      refine ⟨hsame.token_finish h.sound (hstart.reads h.reads), ?_, hnext⟩
      obtain ⟨place, hfront, hlater, hplace⟩ := h.exists_place
      rw [List.take_nil, List.append_nil, List.drop_nil]
      exact ⟨place, hfront, hlater, (SamePlace.finish_self h.sound hrest).trans hplace⟩
  | cons token later =>
      obtain ⟨place, hfront, hlater, hplace⟩ := h.exists_place
      obtain ⟨moved, hrest, hmoved, rfl, hbehind⟩ := hlater.exists_of_cons
      obtain ⟨htoken, hsame⟩ := hplace.step h.sound (hstart.reads hfront) hstep hmoved
      exact ⟨htoken, ⟨moved.lexer, .snoc hfront hrest hmoved, hbehind, hsame⟩, hnext⟩

/-- Several steps lead behind as many tokens, or behind all of them. -/
theorem pull {count : Nat} {run : Run} (h : StandsBetween start front later last lexer)
    (hstart : start.IsSound) (hlast : last.cursor.rest = []) (hpull : lexer.pull count = .ok run) :
    StandsBetween start (front ++ later.take count) (later.drop count) last run.lexer := by
  induction count generalizing front later lexer run with
  | zero =>
      obtain rfl := Except.ok.inj hpull
      simpa using h
  | succ count ih =>
      obtain ⟨next, hstep⟩ := exists_step lexer
      obtain ⟨rest, hrest⟩ := exists_pull count next.lexer
      simp only [Lexer.pull, hstep, hrest, bind, Except.bind, pure, Except.pure] at hpull
      obtain rfl := Except.ok.inj hpull
      have hlater := ih (h.step hstart hlast hstep).2 hrest
      rwa [List.append_assoc, ← List.take_add, List.drop_drop, Nat.add_comm 1] at hlater

/-- A lexer stands where the token ahead begins. -/
theorem offset_eq (h : StandsBetween start front later last lexer) :
    lexer.offset = (later.headD last.finish.token).span.start := by
  cases later with
  | nil =>
      rw [h.samePlace_last.offset_eq, List.headD_nil, finish_token]
      rfl
  | cons token later =>
      obtain ⟨place, -, hlater, hplace⟩ := h.exists_place
      obtain ⟨moved, hrest, hmoved, rfl, -⟩ := hlater.exists_of_cons
      rw [hplace.offset_eq]
      exact (moves_of_step hrest hmoved).token_start.symm

/-- There are no more tokens ahead than characters. -/
theorem length_le (h : StandsBetween start front later last lexer) :
    later.length ≤ lexer.cursor.remaining := by
  obtain ⟨place, -, hlater, hplace⟩ := h.exists_place
  have htiles := hlater.tiles.add_length_le
  have hstop := Cursor.offset_add_remaining last.cursor
  have hhere := Cursor.offset_add_remaining place.cursor
  rw [hlater.text] at hstop
  rw [hplace.cursor_eq]
  simp only [Lexer.offset] at htiles
  omega

/-- A lexer can be taken to any other place on the way. -/
theorem exists_restore (h : StandsBetween start front later last lexer)
    (htarget : StandsBetween start before behind last target) :
    ∃ moved, lexer.restore target.snapshot = (.ok (), moved) ∧
      StandsBetween start before behind last moved ∧ moved.finished = false ∧
      moved.offset = target.offset ∧ moved.diagnostics =
        lexer.diagnostics.filter fun diagnostic => diagnostic.offset < target.offset := by
  have hrestore := htarget.sound.restore_snapshot (h.text.trans htarget.text.symm)
  refine ⟨_, hrestore, ⟨?_, .of_unfinished htarget.sound.ne_initial rfl⟩, rfl, rfl, rfl⟩
  obtain ⟨place, hfront, hlater, hplace⟩ := htarget.exists_place
  refine ⟨place, hfront, hlater, ?_⟩
  exact ⟨hplace.cursor_eq, h.options.trans hfront.options.symm, hplace.stack_eq,
    hplace.withoutModifiers_eq⟩

end StandsBetween

end Lexer

/-! ## Openings -/

namespace Opening

/-- The options of a new lexer. -/
def options : Opening → Options
  | plain options => options
  | inside _ => {}

/-- The frames of a new lexer above the initial one. -/
def above : Opening → List Frame
  | plain _ => []
  | inside mode => [⟨mode, 0⟩]

/-- A new lexer that stands in front of the whole text and has reported nothing. -/
def start (opening : Opening) (text : List Char) : Lexer :=
  ⟨Cursor.ofText text, ⟨opening.above, 0⟩, opening.options, [], false⟩

variable {opening : Opening} (text : List Char)

theorem lexer_eq_start (h : opening ≠ .inside .initial) :
    opening.lexer text = .ok (opening.start text) := by
  cases opening with
  | plain options => rfl
  | inside mode =>
      have hmode : mode ≠ .initial := fun hinitial => h (congrArg Opening.inside hinitial)
      simp [Opening.lexer, Lexer.inMode, Stack.ofFrames, Except.map, hmode, start, above, options,
        Lexer.ofText]

theorem isNew_start (h : opening ≠ .inside .initial) : (opening.start text).IsNew := by
  refine ⟨?_, rfl, rfl⟩
  cases opening with
  | plain options => simp [start, above]
  | inside mode =>
      have hmode : mode ≠ .initial := fun hinitial => h (congrArg Opening.inside hinitial)
      simpa [start, above] using hmode

end Opening

end ElixirLexer
