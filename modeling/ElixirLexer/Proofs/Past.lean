import ElixirLexer.Proofs.Clients
import ElixirLexer.Proofs.Sight

/-!
# What is forgotten behind a snapshot

A lexer that goes on from a snapshot has a text behind it that it never read.  Of this text it sees
how long it is and whether a line ends where it goes on, and nothing else: two lexers that go on
from the same snapshot in front of the same text, with as many characters behind them, read, report
and log the same at every step (`resume_past`).

Nothing is asked of the two pasts but that both end a line or neither does.  This one bit cannot be
dropped, since a line of a heredoc loses its indentation only where it starts.
-/

namespace ElixirLexer

/-! ## The characters behind a cursor -/

namespace Cursor

/-- The place behind the first part of a text. -/
theorem atOffset_append (past rest : List Char) :
    atOffset (past ++ rest) past.length = .ok ⟨past.reverse, rest⟩ := by
  rw [atOffset, if_pos (by simp)]
  simp

/-- Whether a line starts is seen from the last character of the past. -/
theorem atLineStart_reverse (past rest : List Char) :
    atLineStart ⟨past.reverse, rest⟩ = past.getLast?.all isLineBreak := by
  rw [← List.head?_reverse]
  cases past.reverse with
  | nil => rfl
  | cons c behind => rfl

/-- Two pasts that both end a line, or that both end within one, look alike. -/
theorem atLineStart_congr {past other : List Char} (rest : List Char)
    (hlength : other.length = past.length)
    (hline : past = [] ∨ (past.getLast?.any isLineBreak ↔ other.getLast?.any isLineBreak)) :
    atLineStart ⟨other.reverse, rest⟩ = atLineStart ⟨past.reverse, rest⟩ := by
  rw [atLineStart_reverse, atLineStart_reverse]
  rcases List.eq_nil_or_concat past with rfl | ⟨front, c, rfl⟩
  · rw [List.length_eq_zero_iff.mp hlength]
  · rcases List.eq_nil_or_concat other with rfl | ⟨behind, d, rfl⟩
    · simp at hlength
    · have hbreak : isLineBreak c = isLineBreak d := by
        rw [Bool.eq_iff_iff]
        simpa using hline
      simpa using hbreak.symm

end Cursor

namespace Lexer

/-! ## Lexers with the same record -/

/-- Two lexers see the same and have reported the same, under the same options. -/
structure SameRecord (first second : Lexer) : Prop where
  view : SameView first second
  options_eq : second.options = first.options
  diagnostics_eq : second.diagnostics = first.diagnostics

namespace SameRecord

variable {first second : Lexer}

theorem badCharacters_eq (h : SameRecord first second) (found : Match) :
    second.badCharacters found = first.badCharacters found := by
  have hfirst : second.cursor.first? = first.cursor.first? := congrArg List.head? h.view.rest_eq
  rw [badCharacters, badCharacters, h.options_eq, hfirst, h.view.offset_eq]

/-- At the end of the text the same is reported. -/
theorem finish (h : SameRecord first second) :
    second.finish.token = first.finish.token ∧ second.finish.events = first.finish.events ∧
      SameRecord first.finish.lexer second.finish.lexer := by
  obtain ⟨⟨hrest, hoffset, hline, hmark, hstack, hfinished⟩, hoptions, hdiagnostics⟩ := h
  unfold Lexer.finish
  rw [hfinished]
  split
  · exact ⟨by rw [hoffset, hstack], rfl,
      ⟨hrest, hoffset, hline, hmark, hstack, hfinished⟩, hoptions, hdiagnostics⟩
  · rw [hoffset, hstack, hdiagnostics]
    exact ⟨rfl, rfl, ⟨hrest, hoffset, hline, hmark, rfl, rfl⟩, hoptions, rfl⟩

/-- A step gives the same token and logs the same events. -/
theorem step {next : Step} (h : SameRecord first second) (hstep : first.step = .ok next) :
    ∃ other, second.step = .ok other ∧ other.token = next.token ∧ other.events = next.events ∧
      SameRecord next.lexer other.lexer := by
  by_cases hrest : first.cursor.rest = []
  · obtain rfl := Except.ok.inj ((step_of_rest_nil hrest).symm.trans hstep)
    exact ⟨_, step_of_rest_nil (by rw [h.view.rest_eq, hrest]), h.finish⟩
  · obtain ⟨choice, stack, hfirst, hsecond, hview⟩ := h.view.exists_carryOut hrest
    obtain rfl := Except.ok.inj (hfirst.symm.trans hstep)
    have hreports := h.badCharacters_eq choice.found
    refine ⟨_, hsecond, ?_, ?_, hview, h.options_eq, ?_⟩
    · simp only [carryOut, h.view.offset_eq]
    · simp only [carryOut, h.view.offset_eq, hreports]
    · simp only [carryOut, hreports, h.diagnostics_eq]

/-- Any number of steps gives the same tokens and logs the same events. -/
theorem pull {count : Nat} {run : Run} (h : SameRecord first second)
    (hpull : first.pull count = .ok run) :
    ∃ other, second.pull count = .ok other ∧ other.tokens = run.tokens ∧
      other.events = run.events ∧ SameRecord run.lexer other.lexer := by
  induction count generalizing first second run with
  | zero =>
      obtain rfl := Except.ok.inj hpull
      exact ⟨_, rfl, rfl, rfl, h⟩
  | succ count ih =>
      obtain ⟨next, hstep⟩ := exists_step first
      obtain ⟨later, hlater⟩ := exists_pull count next.lexer
      obtain ⟨other, hother, htoken, hevents, hrecord⟩ := h.step hstep
      obtain ⟨rest, hrest, htokens, hlogged, hend⟩ := ih hrecord hlater
      simp only [Lexer.pull, hstep, hlater, bind, Except.bind, pure, Except.pure] at hpull
      obtain rfl := Except.ok.inj hpull
      refine ⟨⟨other.token :: rest.tokens, other.events ++ rest.events, rest.lexer⟩, ?_, ?_, ?_,
        hend⟩
      · simp [Lexer.pull, hother, hrest, bind, Except.bind, pure, Except.pure]
      · rw [htoken, htokens]
      · rw [hevents, hlogged]

/-- Two lexers that stand behind different pasts have the same record. -/
theorem of_pasts {past other : List Char} (rest : List Char) (stack : Stack) (options : Options)
    (hlength : other.length = past.length)
    (hline : past = [] ∨ (past.getLast?.any isLineBreak ↔ other.getLast?.any isLineBreak)) :
    SameRecord ⟨⟨past.reverse, rest⟩, stack, options, [], false⟩
      ⟨⟨other.reverse, rest⟩, stack, options, [], false⟩ where
  view := {
    rest_eq := rfl
    offset_eq := by simp [offset, Cursor.offset, hlength]
    lineStart_eq := Cursor.atLineStart_congr rest hlength hline
    mark_eq := by simp [Scan.hasByteOrderMark, Scan.rest, Cursor.offset, hlength]
    stack_eq := rfl
    finished_eq := rfl }
  options_eq := rfl
  diagnostics_eq := rfl

end SameRecord

end Lexer

/-! ## Going on from a snapshot -/

/-- Two runs give the same tokens and log the same events, and stand at the same offset under the
same frames with the same reports behind them. -/
structure Run.Repeats (run other : Run) : Prop where
  tokens_eq : other.tokens = run.tokens
  events_eq : other.events = run.events
  diagnostics_eq : other.lexer.diagnostics = run.lexer.diagnostics
  offset_eq : other.lexer.offset = run.lexer.offset
  stack_eq : other.lexer.stack = run.lexer.stack
  finished_eq : other.lexer.finished = run.lexer.finished

/-- **The past matters only through the snapshot and one bit.**  A snapshot that was taken of any
lexer is gone on from behind two texts of the same length.  If both end a line or neither does, the
two lexers give the same after any number of steps, whatever the text in front of them is. -/
theorem resume_past {past other : List Char} {snapshot : Snapshot} {actions : List Action}
    (rest : List Char) (options : Options) (hlength : other.length = past.length)
    (hline : past = [] ∨ (past.getLast?.any isLineBreak ↔ other.getLast?.any isLineBreak))
    (hlegal : ∀ action ∈ actions, action.IsLegal)
    (htaken : snapshot ∈ (Client.after actions).snapshots)
    (hoffset : snapshot.offset = past.length) :
    ∃ first second, Lexer.resume (past ++ rest) snapshot options = .ok first ∧
      Lexer.resume (other ++ rest) snapshot options = .ok second ∧
      ∀ count, ∃ run again, first.pull count = .ok run ∧ second.pull count = .ok again ∧
        run.Repeats again := by
  obtain ⟨stack, hstack, -, -⟩ := (Client.IsSound.after actions hlegal).snapshots snapshot htaken
  have hfirst : Lexer.resume (past ++ rest) snapshot options =
      .ok ⟨⟨past.reverse, rest⟩, stack, options, [], false⟩ := by
    rw [Lexer.resume, hoffset, Cursor.atOffset_append, hstack]
    rfl
  have hsecond : Lexer.resume (other ++ rest) snapshot options =
      .ok ⟨⟨other.reverse, rest⟩, stack, options, [], false⟩ := by
    rw [Lexer.resume, hoffset, ← hlength, Cursor.atOffset_append, hstack]
    rfl
  refine ⟨_, _, hfirst, hsecond, fun count => ?_⟩
  obtain ⟨run, hrun⟩ := Lexer.exists_pull count ⟨⟨past.reverse, rest⟩, stack, options, [], false⟩
  have hrecord := Lexer.SameRecord.of_pasts rest stack options hlength hline
  obtain ⟨again, hagain, htokens, hevents, hend⟩ := hrecord.pull hrun
  exact ⟨run, again, hrun, hagain, htokens, hevents, hend.diagnostics_eq, hend.view.offset_eq,
    hend.view.stack_eq, hend.view.finished_eq⟩

/-- A heredoc is gone on with behind two texts that have nothing to do with it.  One ends with a
newline and the other with a carriage return, so a line starts in both. -/
theorem resume_past_of_heredoc :
    let actions : List Action :=
      [.start ['"', '"', '"', '\n', ' ', 'x', '\n', ' ', '"', '"', '"'] (.plain {}), .next 0,
        .next 0, .snapshot 0]
    let body : Heredoc := ⟨.string, '"', true, 1⟩
    let snapshot : Snapshot := ⟨4, [⟨.initial, 0⟩, ⟨.heredocBody body, 0⟩]⟩
    ['#', '{', '~', '\r'].length = ['a', 'b', 'c', '\n'].length ∧
      (∀ action ∈ actions, action.IsLegal) ∧ snapshot ∈ (Client.after actions).snapshots ∧
      ∃ first second,
        Lexer.resume (['a', 'b', 'c', '\n'] ++ [' ', 'y', '"']) snapshot {} = .ok first ∧
        Lexer.resume (['#', '{', '~', '\r'] ++ [' ', 'y', '"']) snapshot {} = .ok second ∧
        ∀ count, ∃ run again, first.pull count = .ok run ∧ second.pull count = .ok again ∧
          run.Repeats again := by
  intro actions body snapshot
  have hlegal : ∀ action ∈ actions, action.IsLegal := by
    simp [actions, Action.IsLegal]
  have htaken : snapshot ∈ (Client.after actions).snapshots := by
    decide +kernel
  exact ⟨rfl, hlegal, htaken,
    resume_past [' ', 'y', '"'] {} rfl (.inr (by decide)) hlegal htaken rfl⟩

/-- Where one past ends a line and the other does not, different indentation is taken off. -/
example :
    let snapshot : Snapshot := ⟨1, [⟨.initial, 0⟩, ⟨.heredocBody ⟨.string, '"', true, 1⟩, 0⟩]⟩
    let indents (past : Char) : Option (List Nat) :=
      ((Lexer.resume [past, ' ', 'y'] snapshot {}).bind (Lexer.pull 1)).toOption.map fun run =>
        run.tokens.map Token.indent
    indents '\n' = some [1] ∧ indents 'a' = some [0] := by
  decide +kernel

end ElixirLexer
