import ElixirLexer.Proofs.Snapshots

/-!
# The log replays the run

The events of a run are enough to follow it.  They list its tokens and its reports, and the changes
of the stack can be carried out again from them (`replayLog`): a mode that gives way is popped, and
a transition is carried out at the place where the next logged token starts.  On the way the log
checks itself, because modes, depths and the states of tokens are logged as well.

`Tells` says this of a stretch of the log before the end of the text.  A step tells of its token
(`Moves.tells`), so a reading tells of its tokens (`Reads.tells`).  At the end modifier frames are
dropped without an event; that is the one change of the stack that the log does not show
(`pull_logs`).

Nothing is said about sessions that are taken back to a snapshot: they log on, but the log does not
tell where they went.
-/

namespace ElixirLexer

/-! ## Reading a log -/

namespace Event

/-- The token that an event tells of. -/
def token? : Event → Option Token
  | token made => some made
  | _ => none

/-- The report that an event tells of. -/
def report? : Event → Option Diagnostic
  | badCharacter diagnostic | unterminated diagnostic => some diagnostic
  | _ => none

/-- Bad characters are logged as they are met, and what is open as the text ends. -/
def IsFiled : Event → Prop
  | badCharacter diagnostic => diagnostic.problem.isUnterminated = false
  | unterminated diagnostic => diagnostic.problem.isUnterminated = true
  | _ => True

/-- What is logged at the end of the text: its place, the number of open frames and the number of
reports. -/
def ending? : Event → Option (Nat × Nat × Nat)
  | endOfInput offset openFrames diagnostics => some (offset, openFrames, diagnostics)
  | _ => none

/-- Carries out again what an event tells of the stack, if it fits the stack.  A pushed frame begins
where the next logged token starts. -/
def replay (nextStart : Option Nat) (stack : Stack) : Event → Option Stack
  | gaveWay _ mode =>
      match stack.pop with
      | .ok (frame, below) => if frame.mode.id = mode then some below else none
      | .error _ => none
  | transition change depth =>
      if depth = stack.depth then nextStart.bind fun start => (stack.apply change start).toOption
      else none
  | token made => if made.state = stack.top.mode.id then some stack else none
  | badCharacter _ | unterminated _ | endOfInput .. => some stack

end Event

/-- The start of the first token that is logged. -/
def nextTokenStart (events : List Event) : Option Nat :=
  (events.filterMap Event.token?).head?.map fun token => token.span.start

/-- Carries out a log from a stack.  There is no result if some event does not fit. -/
def replayLog (stack : Stack) : List Event → Option Stack
  | [] => some stack
  | event :: later =>
      (event.replay (nextTokenStart later) stack).bind fun next => replayLog next later

theorem replayLog_cons {stack next : Stack} {event : Event} {later : List Event}
    (h : event.replay (nextTokenStart later) stack = some next) :
    replayLog stack (event :: later) = replayLog next later := by
  rw [replayLog, h, Option.bind_some]

/-- Events that leave the stack alone may be passed over. -/
theorem replayLog_append_of_stays {stack : Stack} {events : List Event}
    (h : ∀ event ∈ events, ∀ start, event.replay start stack = some stack) (later : List Event) :
    replayLog stack (events ++ later) = replayLog stack later := by
  induction events with
  | nil => rfl
  | cons event events ih =>
      obtain ⟨hfirst, hothers⟩ := List.forall_mem_cons.mp h
      rw [List.cons_append, replayLog_cons (hfirst _), ih hothers]

/-- Frames that gave way are popped again. -/
theorem replayLog_gaveWay (gone kept : List Frame) (base offset : Nat) (later : List Event) :
    replayLog ⟨gone ++ kept, base⟩
        (gone.map (fun frame => .gaveWay offset frame.mode.id) ++ later) =
      replayLog ⟨kept, base⟩ later := by
  induction gone with
  | nil => rfl
  | cons frame gone ih =>
      refine Eq.trans (replayLog_cons ?_) ih
      simp [Event.replay, Stack.pop]

/-- A transition is carried out again where the next token starts. -/
theorem replayLog_transitionEvents {stack next : Stack} {change : Transition} {start : Nat}
    {later : List Event} (happly : stack.apply change start = .ok next)
    (hnext : nextTokenStart later = some start) :
    replayLog stack (Lexer.transitionEvents change stack.depth ++ later) =
      replayLog next later := by
  unfold Lexer.transitionEvents
  split
  · next hstay =>
      rw [hstay] at happly
      obtain rfl := Except.ok.inj happly
      rfl
  · refine replayLog_cons ?_
    simp [Event.replay, hnext, happly, Except.toOption]

namespace Lexer

/-! ## Before the end of the text -/

/-- What a stretch of the log tells of a run before the end of the text. -/
structure Tells (start : Lexer) (tokens : List Token) (events : List Event) (last : Lexer) :
    Prop where
  tokens_eq : events.filterMap Event.token? = tokens
  reports_eq : start.diagnostics ++ events.filterMap Event.report? = last.diagnostics
  endings_eq : events.filterMap Event.ending? = []
  filed : ∀ event ∈ events, event.IsFiled
  /-- Whatever is logged behind it, the stretch leads from the one stack to the other. -/
  replays : ∀ later, replayLog start.stack (events ++ later) = replayLog last.stack later

theorem Tells.refl (lexer : Lexer) : Tells lexer [] [] lexer :=
  ⟨rfl, List.append_nil _, rfl, by simp, fun _ => rfl⟩

theorem Tells.trans {start middle last : Lexer} {tokens more : List Token}
    {events behind : List Event} (h : Tells start tokens events middle)
    (later : Tells middle more behind last) :
    Tells start (tokens ++ more) (events ++ behind) last where
  tokens_eq := by rw [List.filterMap_append, h.tokens_eq, later.tokens_eq]
  reports_eq := by
    rw [List.filterMap_append, ← List.append_assoc, h.reports_eq, later.reports_eq]
  endings_eq := by rw [List.filterMap_append, h.endings_eq, later.endings_eq, List.append_nil]
  filed := List.forall_mem_append.mpr ⟨h.filed, later.filed⟩
  replays := fun more => by rw [List.append_assoc, h.replays, later.replays]

theorem isUnterminated_of_mem_badCharacters {lexer : Lexer} {found : Match}
    {diagnostic : Diagnostic} (h : diagnostic ∈ lexer.badCharacters found) :
    diagnostic.problem.isUnterminated = false := by
  unfold badCharacters at h
  split at h
  · obtain ⟨c, -, rfl⟩ := List.mem_map.mp h
    rfl
  · simp at h

/-- A step logs the frames that gave way, its transition, its report and its token. -/
theorem Moves.tells {lexer : Lexer} {step : Step} (h : Moves lexer step) :
    Tells lexer [step.token] step.events step.lexer := by
  cases h with
  | @mk gone kept found stack habove hgone hreading hfits happly =>
      -- A transition, logged or not, is neither a token nor a report nor an end.
      have hviews : (transitionEvents found.transition kept.length).filterMap Event.token? = [] ∧
          (transitionEvents found.transition kept.length).filterMap Event.report? = [] ∧
          (transitionEvents found.transition kept.length).filterMap Event.ending? = [] := by
        unfold transitionEvents
        split <;> exact ⟨rfl, rfl, rfl⟩
      obtain ⟨htokens, hreports, hendings⟩ := hviews
      refine ⟨?_, ?_, ?_, ?_, fun later => ?_⟩
      · simp [List.filterMap_map, Function.comp_def, htokens, Event.token?]
      · simp [List.filterMap_map, Function.comp_def, hreports, Event.report?]
      · simp [List.filterMap_map, Function.comp_def, hendings, Event.ending?]
      · intro event hmem
        simp only [List.mem_append, List.mem_map, List.mem_singleton] at hmem
        rcases hmem with ((⟨frame, -, rfl⟩ | hchange) | ⟨diagnostic, hreport, rfl⟩) | rfl
        · trivial
        · unfold transitionEvents at hchange
          split at hchange
          · simp at hchange
          · rw [List.mem_singleton.mp hchange]
            trivial
        · exact isUnterminated_of_mem_badCharacters hreport
        · trivial
      · have hstack : lexer.stack = ⟨gone ++ kept, lexer.stack.base⟩ := by rw [← habove]
        have hreplayed : ∀ event ∈ (lexer.badCharacters found).map Event.badCharacter, ∀ start,
            event.replay start stack = some stack := by
          simp [Event.replay]
        rw [List.append_assoc, List.append_assoc, List.append_assoc, hstack, replayLog_gaveWay]
        refine (replayLog_transitionEvents happly ?_).trans ?_
        · simp [nextTokenStart, List.filterMap_map, Function.comp_def, Event.token?]
        · rw [replayLog_append_of_stays hreplayed]
          exact replayLog_cons (if_pos rfl)

theorem Reads.tells {start last : Lexer} {tokens : List Token} (h : Reads start tokens last) :
    ∃ events, start.pull tokens.length = .ok ⟨tokens, events, last⟩ ∧
      Tells start tokens events last := by
  induction h with
  | refl => exact ⟨[], rfl, .refl start⟩
  | @snoc tokens last step before hrest hstep ih =>
      obtain ⟨events, hpull, htells⟩ := ih
      refine ⟨events ++ step.events, ?_, htells.trans (moves_of_step hrest hstep).tells⟩
      rw [List.length_append]
      exact pull_append hpull (pull_one hstep)

/-! ## To the end of the text and beyond -/

/-- What the log of a run from `start` to the end of the text, or beyond it, tells of the tokens in
front of the end mark and of the lexer that the run leaves. -/
structure Logs (start : Lexer) (tokens : List Token) (events : List Event) (last : Lexer) :
    Prop where
  tokens_eq : events.filterMap Event.token? = tokens
  reports_eq : events.filterMap Event.report? = last.diagnostics
  filed : ∀ event ∈ events, event.IsFiled
  /-- The log can be carried out from the first stack to a stack on which at most modifiers lie that
  the lexer no longer has.  The end is logged once, and without them. -/
  replays : ∃ stack, replayLog start.stack events = some stack ∧
    last.stack = withoutModifiers stack ∧
    events.filterMap Event.ending? =
      [(last.offset, (withoutModifiers stack).depth, last.diagnostics.length)]

/-- The end of the text is logged behind what the tokens logged. -/
theorem Tells.finish {start last : Lexer} {tokens : List Token} {events : List Event}
    (h : Tells start tokens events last) (hnew : start.diagnostics = [])
    (hfinished : last.finished = false) :
    Logs start tokens (events ++ last.finish.events) last.finish.lexer := by
  have hevents : last.finish.events =
      (unterminated (withoutModifiers last.stack) last.offset).map .unterminated ++
        [.endOfInput last.offset (withoutModifiers last.stack).depth
          last.finish.lexer.diagnostics.length] := by
    simp [Lexer.finish, hfinished]
  refine ⟨?_, ?_, ?_, last.stack, ?_, finish_stack hfinished, ?_⟩
  · rw [List.filterMap_append, h.tokens_eq, hevents]
    simp [List.filterMap_map, Function.comp_def, Event.token?]
  · have hbefore := h.reports_eq
    rw [hnew, List.nil_append] at hbefore
    rw [List.filterMap_append, hbefore, hevents, finish_diagnostics hfinished]
    simp [List.filterMap_map, Function.comp_def, Event.report?]
  · refine List.forall_mem_append.mpr ⟨h.filed, fun event hmem => ?_⟩
    rw [hevents] at hmem
    rcases List.mem_append.mp hmem with hmem | hmem
    · obtain ⟨diagnostic, hreport, rfl⟩ := List.mem_map.mp hmem
      exact isUnterminated_of_mem_unterminated hreport
    · rw [List.mem_singleton.mp hmem]
      trivial
  · have hreplayed : ∀ event ∈ last.finish.events, ∀ start,
        event.replay start last.stack = some last.stack := by
      rw [hevents]
      intro event hmem start
      rcases List.mem_append.mp hmem with hmem | hmem
      · obtain ⟨diagnostic, -, rfl⟩ := List.mem_map.mp hmem
        rfl
      · rw [List.mem_singleton.mp hmem]
        rfl
    rw [h.replays, ← List.append_nil last.finish.events, replayLog_append_of_stays hreplayed]
    rfl
  · rw [List.filterMap_append, h.endings_eq, hevents, Lexer.offset, Lexer.offset, finish_cursor]
    simp [List.filterMap_map, Function.comp_def, Event.ending?]

end Lexer

end ElixirLexer
