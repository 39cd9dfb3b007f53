import ElixirLexer.Log.Record
import ElixirLexer.Proofs.LogReplay
import ElixirLexer.Proofs.Wording

/-!
# Records replay the run

What a session logs leaves it as records: a message and named fields.  Here the log is read with
nothing else in hand.  A record is known by its message, the numbers and words it tells are looked
up under the names of their fields, and the stack is changed as the words of a transition say
(`Record.Carries`).  Records that are carried out one after the other lead to one stack
(`Retraces.unique`), since the words of a transition tell the transition.

The records of a run list its tokens and its reports, and lead from the first stack to the last
(`Lexer.pull_logs`).  The levels of the records and the offsets of modes that give way are not
needed for this, and nothing is said about them.
-/

namespace ElixirLexer

/-! ## Reading a record -/

namespace Record

/-- The number in a field. -/
def number? (record : Record) (name : String) : Option Nat :=
  match record.fields.lookup name with
  | some (.number value) => some value
  | _ => none

/-- The words in a field. -/
def text? (record : Record) (name : String) : Option String :=
  match record.fields.lookup name with
  | some (.text value) => some value
  | _ => none

/-- Kind, start, length and state of the token that a record tells of. -/
def token? (record : Record) : Option (String × Nat × Nat × String) :=
  if record.message = "token" then do
    let kind ← record.text? "kind"
    let start ← record.number? "start"
    let length ← record.number? "len"
    let state ← record.text? "state"
    return (kind, start, length, state)
  else none

/-- The report that a record tells of, with the message under which it is logged. -/
def report? (record : Record) : Option (String × String) :=
  if record.message = "bad character" ∨ record.message = "unterminated construct" then
    (record.text? "diagnostic").map fun words => (record.message, words)
  else none

/-- What a record tells of the end of the text: its place, the number of open frames and the number
of reports. -/
def ending? (record : Record) : Option (Nat × Nat × Nat) :=
  if record.message = "end of input" then do
    let offset ← record.number? "end"
    let openFrames ← record.number? "open_frames"
    let diagnostics ← record.number? "diagnostics"
    return (offset, openFrames, diagnostics)
  else none

/-- What a record tells of the stack, if it fits the stack: the stack behind it.  A pushed frame
begins where the next logged token starts. -/
inductive Carries (record : Record) (nextStart : Option Nat) (stack : Stack) : Stack → Prop
  | yield {frame : Frame} {below : Stack} (hmessage : record.message = "yield")
      (hmode : record.text? "mode" = some frame.mode.id.name)
      (hpop : stack.pop = .ok (frame, below)) : Carries record nextStart stack below
  | transition {change : Transition} {start : Nat} {next : Stack}
      (hmessage : record.message = "transition")
      (hdepth : record.number? "depth" = some stack.depth)
      (hchange : record.text? "transition" = some change.print)
      (hstart : nextStart = some start)
      (happly : stack.apply change start = .ok next) : Carries record nextStart stack next
  | token (hmessage : record.message = "token")
      (hstate : record.text? "state" = some stack.top.mode.id.name) :
      Carries record nextStart stack stack
  | other
      (hmessage : record.message ∈ ["bad character", "unterminated construct", "end of input"]) :
      Carries record nextStart stack stack

/-- There is at most one such stack. -/
theorem Carries.unique {record : Record} {nextStart : Option Nat} {stack next other : Stack}
    (h : record.Carries nextStart stack next) (hother : record.Carries nextStart stack other) :
    next = other := by
  cases h with
  | yield hmessage hmode hpop =>
      cases hother with
      | yield _ _ hpopped => exact (Prod.mk.inj (Except.ok.inj (hpop.symm.trans hpopped))).2
      | _ => simp_all
  | transition hmessage hdepth hchange hstart happly =>
      cases hother with
      | transition _ _ hchanged hstarted happlied =>
          obtain rfl := Transition.print_injective (Option.some.inj (hchange.symm.trans hchanged))
          obtain rfl := Option.some.inj (hstart.symm.trans hstarted)
          exact Except.ok.inj (happly.symm.trans happlied)
      | _ => simp_all
  | token hmessage hstate => cases hother <;> simp_all
  | other hmessage => cases hother <;> simp_all

end Record

/-- The start of the first token that is logged. -/
def nextRecordStart (records : List Record) : Option Nat :=
  (records.filterMap Record.token?).head?.map fun told => told.2.1

/-- Records that are carried out one after the other lead from one stack to another. -/
inductive Retraces : Stack → List Record → Stack → Prop
  | nil (stack : Stack) : Retraces stack [] stack
  | cons {stack next last : Stack} {record : Record} {later : List Record}
      (hcarries : record.Carries (nextRecordStart later) stack next)
      (hlater : Retraces next later last) : Retraces stack (record :: later) last

/-- Records lead to one stack. -/
theorem Retraces.unique {stack last other : Stack} {records : List Record}
    (h : Retraces stack records last) (hother : Retraces stack records other) : last = other := by
  induction h with
  | nil stack =>
      cases hother
      rfl
  | cons hcarries hlater ih =>
      cases hother with
      | cons hcarried hothers =>
          obtain rfl := hcarries.unique hcarried
          exact ih hothers

/-! ## The records of events -/

/-- What is logged of a token. -/
def Token.told (token : Token) : String × Nat × Nat × String :=
  (token.kind.name, token.span.start, token.span.length, token.state.name)

/-- What is logged of a diagnostic: whether a character is bad or something is not ended, and its
words. -/
def Diagnostic.told (diagnostic : Diagnostic) : String × String :=
  (if diagnostic.problem.isUnterminated then "unterminated construct" else "bad character",
    diagnostic.message)

namespace Event

theorem token?_record (event : Event) : event.record.token? = event.token?.map Token.told := by
  cases event <;> rfl

theorem ending?_record (event : Event) : event.record.ending? = event.ending? := by
  cases event <;> rfl

theorem report?_record {event : Event} (h : event.IsFiled) :
    event.record.report? = event.report?.map Diagnostic.told := by
  cases event with
  | badCharacter diagnostic | unterminated diagnostic =>
      replace h : diagnostic.problem.isUnterminated = _ := h
      simp [record, Record.report?, Record.text?, report?, Diagnostic.told, h]
  | _ => rfl

/-- What an event tells of the stack its record tells as well. -/
theorem carries_record {event : Event} {nextStart : Option Nat} {stack next : Stack}
    (h : event.replay nextStart stack = some next) : event.record.Carries nextStart stack next := by
  cases event with
  | gaveWay offset mode =>
      simp only [replay] at h
      split at h
      · next frame below hpop =>
          split at h
          · next hmode =>
              obtain rfl := Option.some.inj h
              exact .yield rfl (hmode ▸ rfl) hpop
          · simp at h
      · simp at h
  | transition change depth =>
      simp only [replay] at h
      split at h
      · next hdepth =>
          obtain ⟨start, hstart, happly⟩ := Option.bind_eq_some_iff.mp h
          refine .transition rfl (hdepth ▸ rfl) rfl hstart ?_
          cases hnext : stack.apply change start with
          | ok behind =>
              rw [hnext] at happly
              exact congrArg Except.ok (Option.some.inj happly)
          | error fault => simp [hnext, Except.toOption] at happly
      · simp at h
  | token made =>
      simp only [replay] at h
      split at h
      · next hstate =>
          obtain rfl := Option.some.inj h
          exact .token rfl (hstate ▸ rfl)
      · simp at h
  | badCharacter | unterminated | endOfInput =>
      obtain rfl := Option.some.inj h
      exact .other (by simp [record])

end Event

theorem filterMap_token?_record (events : List Event) :
    (events.map Event.record).filterMap Record.token? =
      (events.filterMap Event.token?).map Token.told := by
  rw [List.filterMap_map, List.map_filterMap]
  exact List.filterMap_congr fun event _ => event.token?_record

theorem nextRecordStart_eq (events : List Event) :
    nextRecordStart (events.map Event.record) = nextTokenStart events := by
  rw [nextRecordStart, nextTokenStart, filterMap_token?_record, List.head?_map, Option.map_map]
  rfl

/-- Where the events of a log lead its records lead. -/
theorem retraces_of_replayLog {stack last : Stack} {events : List Event}
    (h : replayLog stack events = some last) :
    Retraces stack (events.map Event.record) last := by
  induction events generalizing stack with
  | nil =>
      obtain rfl := Option.some.inj h
      exact .nil stack
  | cons event later ih =>
      obtain ⟨next, hevent, hlater⟩ := Option.bind_eq_some_iff.mp h
      rw [← nextRecordStart_eq] at hevent
      exact .cons (Event.carries_record hevent) (ih hlater)

/-! ## The records of a run -/

namespace Lexer

/-- What the records of a run from `start` to the end of the text, or beyond it, tell of the tokens
in front of the end mark and of the lexer that the run leaves. -/
structure Recounts (start : Lexer) (tokens : List Token) (records : List Record) (last : Lexer) :
    Prop where
  tokens_eq : records.filterMap Record.token? = tokens.map Token.told
  reports_eq : records.filterMap Record.report? = last.diagnostics.map Diagnostic.told
  /-- The records lead to one stack, on which at most modifiers lie that the lexer no longer has.
  The end is logged once, and without them. -/
  retraces : ∃ stack, (∀ other, Retraces start.stack records other ↔ other = stack) ∧
    last.stack = withoutModifiers stack ∧
    records.filterMap Record.ending? =
      [(last.offset, (withoutModifiers stack).depth, last.diagnostics.length)]

theorem Logs.recounts {start last : Lexer} {tokens : List Token} {events : List Event}
    (h : Logs start tokens events last) :
    Recounts start tokens (events.map Event.record) last where
  tokens_eq := by rw [filterMap_token?_record, h.tokens_eq]
  reports_eq := by
    rw [← h.reports_eq, List.filterMap_map, List.map_filterMap]
    exact List.filterMap_congr fun event hmem => Event.report?_record (h.filed event hmem)
  retraces := by
    obtain ⟨stack, hreplays, hstack, hending⟩ := h.replays
    -- Where the events lead, the records lead, and they lead nowhere else.
    have hretraces := retraces_of_replayLog hreplays
    refine ⟨stack, fun other => ⟨fun hother => hother.unique hretraces, ?_⟩, hstack, ?_⟩
    · rintro rfl
      exact hretraces
    · rw [← hending, List.filterMap_map]
      exact List.filterMap_congr fun event _ => event.ending?_record

end Lexer

end ElixirLexer
