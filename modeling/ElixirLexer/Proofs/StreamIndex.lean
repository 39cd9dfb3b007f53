import Mathlib.Data.List.Forall2
import ElixirLexer.Stream.Session
import ElixirLexer.Proofs.Restart
import ElixirLexer.Proofs.StreamSteps

/-!
# A stream is an index into a list

A client of a token stream cannot tell it from a list of tokens with an index: a `Reader`.  The
reader holds all tokens from the start and never lexes anything, so it has no token read ahead, and
going back to a checkpoint only sets its index.  From the same commands both give the same answers,
and the stream always counts what the index says (`Stream.performAll_eq_reader`).

A checkpoint also holds the frames of the lexer, of which the reader knows nothing.  So the answers
are compared without them.
-/

namespace ElixirLexer

/-! ## Lexers to begin with -/

/-- A lexer that was opened on a text, or that goes on in a text from any snapshot. -/
inductive Lexer.IsFresh (lexer : Lexer) : Prop
  | opened (text : List Char) (opening : Opening) (h : opening.lexer text = .ok lexer)
  | resumed (text : List Char) (snapshot : Snapshot) (options : Options)
      (h : Lexer.resume text snapshot options = .ok lexer)

theorem Lexer.IsFresh.isNew {lexer : Lexer} (h : lexer.IsFresh) : lexer.IsNew := by
  cases h with
  | opened text opening h =>
      by_cases hopening : opening = .inside .initial
      · subst hopening
        simp [Opening.lexer, inMode, Stack.ofFrames, Except.map] at h
      · rw [opening.lexer_eq_start text hopening] at h
        obtain rfl := Except.ok.inj h
        exact opening.isNew_start text hopening
  | resumed text snapshot options h =>
      unfold resume at h
      cases hcursor : Cursor.atOffset text snapshot.offset with
      | error fault => simp [hcursor, bind, Except.bind] at h
      | ok cursor =>
          cases hstack : snapshot.stack with
          | error fault => simp [hcursor, hstack, bind, Except.bind] at h
          | ok stack =>
              simp only [hcursor, hstack, bind, Except.bind, pure, Except.pure] at h
              obtain rfl := Except.ok.inj h
              exact ⟨Stack.ne_initial_of_ofFrames hstack, rfl, rfl⟩

/-- A checkpoint of a stream over the lexer `start` is the place in front of the token with this
index. -/
def Checkpoint.IsAt (start : Lexer) (tokens : List Token) (last : Lexer) (taken : Checkpoint)
    (index : Nat) : Prop :=
  ∃ front later before, tokens = front ++ later ∧ index = front.length ∧
    Lexer.StandsBetween start front later last before ∧ taken = ⟨before.snapshot, index⟩

namespace Stream

/-! ## The reader -/

/-- A list of tokens with an index, and the indices of the checkpoints taken so far. -/
structure Reader where
  tokens : List Token
  /-- What stands behind the last token. -/
  mark : Token
  index : Nat := 0
  saved : List Nat := []

namespace Reader

/-- The token at the index, or the mark behind the last. -/
def current (reader : Reader) : Token :=
  reader.tokens.getD reader.index reader.mark

/-- The tokens from the index on. -/
def left (reader : Reader) : List Token :=
  reader.tokens.drop reader.index

/-- The index moves on by `count`, but not behind the mark. -/
def pass (reader : Reader) (count : Nat) : Reader :=
  { reader with index := min (reader.index + count) reader.tokens.length }

/-- The blanks and comments at the index. -/
def trivia (reader : Reader) : List Token :=
  reader.left.takeWhile fun token => token.kind.isTrivia

/-- Carries out one command that reads. -/
def perform (reader : Reader) : Command → Answer × Reader
  | .peek => (.token reader.current, reader)
  | .next => (.token reader.current, reader.pass 1)
  | .advance => (Session.optional reader.left.head?, reader.pass 1)
  | .take count => (.tokens (reader.left.take count), reader.pass count)
  | .drain => (.tokens reader.left, reader.pass reader.left.length)
  | .eat kind =>
      if reader.current.kind = kind then (.token reader.current, reader.pass 1)
      else (.noToken, reader)
  | .skipTrivia => (.done, reader.pass reader.trivia.length)
  | .isAtEnd => (.flag (reader.index == reader.tokens.length), reader)
  | .checkpoint =>
      (.checkpoint reader.saved.length ⟨⟨reader.current.span.start, []⟩, reader.index⟩,
        { reader with saved := reader.saved ++ [reader.index] })
  | .rewind id =>
      match reader.saved[id]? with
      | none => (.noSuchCheckpoint, reader)
      | some index => (.done, { reader with index })
  | .start _ _ | .diagnostics | .lexer => (.done, reader)

/-- Carries out several commands.  Each answer comes with the reader that the command left. -/
def performAll (reader : Reader) : List Command → List (Answer × Reader)
  | [] => []
  | command :: later =>
      reader.perform command :: (reader.perform command).2.performAll later

end Reader

/-- The commands that read tokens, look at them or go back to a checkpoint. -/
def Command.isReading : Command → Bool
  | .start _ _ | .diagnostics | .lexer => false
  | _ => true

/-- An answer without the frames of a checkpoint. -/
def Answer.withoutFrames : Answer → Answer
  | .checkpoint id taken => .checkpoint id ⟨⟨taken.snapshot.offset, []⟩, taken.consumed⟩
  | answer => answer

/-! ## The stream follows the reader -/

/-- Related lists have related members in the same places. -/
theorem getElem?_of_forall₂ {α β : Type} {related : α → β → Prop} {first : List α}
    {second : List β} (h : List.Forall₂ related first second) (index : Nat) :
    first[index]? = none ∧ second[index]? = none ∨
      ∃ a b, first[index]? = some a ∧ second[index]? = some b ∧ related a b := by
  induction h generalizing index with
  | nil => exact .inl ⟨rfl, rfl⟩
  | cons hhead _ ih =>
      cases index with
      | zero => exact .inr ⟨_, _, rfl, rfl, hhead⟩
      | succ index => exact ih index

namespace Reader

variable {reader : Reader} {front later : List Token}

theorem current_eq (htokens : reader.tokens = front ++ later)
    (hindex : reader.index = front.length) : reader.current = later.headD reader.mark := by
  rw [current, htokens, hindex]
  cases later <;> simp

theorem left_eq (htokens : reader.tokens = front ++ later)
    (hindex : reader.index = front.length) : reader.left = later := by
  rw [left, htokens, hindex, List.drop_left]

end Reader

/-- A session of a stream over the lexer `start` and a reader are at the same place. -/
structure Session.Follows (start last : Lexer) (session : Session) (reader : Reader) : Prop where
  mark_eq : reader.mark = last.finish.token
  exists_handedOut : ∃ front later, reader.tokens = front ++ later ∧
    reader.index = front.length ∧ HandedOut start front later last session.stream
  saved : List.Forall₂ (Checkpoint.IsAt start reader.tokens last) session.checkpoints reader.saved

namespace Session.Follows

variable {start last : Lexer} {session : Session} {reader : Reader} {front later : List Token}
  {stream : Stream}

theorem consumed_eq (h : session.Follows start last reader) :
    session.stream.consumed = reader.index := by
  obtain ⟨front, later, -, hindex, hstream⟩ := h.exists_handedOut
  rw [hindex, hstream.consumed_eq]

/-- The stream has looked ahead. -/
theorem stay (h : session.Follows start last reader) (htokens : reader.tokens = front ++ later)
    (hindex : reader.index = front.length) (hstream : HandedOut start front later last stream) :
    Follows start last { session with stream } reader :=
  ⟨h.mark_eq, ⟨front, later, htokens, hindex, hstream⟩, h.saved⟩

/-- The stream has handed out `passed`. -/
theorem pass {passed left : List Token} {count : Nat} (h : session.Follows start last reader)
    (htokens : reader.tokens = front ++ (passed ++ left)) (hindex : reader.index = front.length)
    (hcount : passed.length = min count (passed ++ left).length)
    (hstream : HandedOut start (front ++ passed) left last stream) :
    Follows start last { session with stream } (reader.pass count) := by
  refine ⟨h.mark_eq, ⟨front ++ passed, left, ?_, ?_, hstream⟩, h.saved⟩
  · rw [List.append_assoc]
    exact htokens
  · simp only [List.length_append] at hcount
    simp only [Reader.pass, htokens, hindex, List.length_append]
    omega

/-- The stream has handed out `count` tokens, or all that were left. -/
theorem pass_take {count : Nat} (h : session.Follows start last reader)
    (htokens : reader.tokens = front ++ later) (hindex : reader.index = front.length)
    (hstream : HandedOut start (front ++ later.take count) (later.drop count) last stream) :
    Follows start last { session with stream } (reader.pass count) := by
  rw [← List.take_append_drop count later] at htokens
  refine h.pass htokens hindex ?_ hstream
  rw [List.take_append_drop, List.length_take]

/-- From the same command a stream and a reader at the same place give the same answer, and come to
the same place. -/
theorem perform {command : Command} (h : session.Follows start last reader)
    (hstart : start.IsSound) (hlast : last.cursor.rest = []) (hreading : command.isReading) :
    (session.perform command).1.withoutFrames = (reader.perform command).1 ∧
      Follows start last (session.perform command).2 (reader.perform command).2 := by
  obtain ⟨front, later, htokens, hindex, hstream⟩ := h.exists_handedOut
  -- What stands at the index is the first of the tokens that the stream has left.
  have hcurrent := reader.current_eq htokens hindex
  have hleft := reader.left_eq htokens hindex
  rw [h.mark_eq] at hcurrent
  cases command with
  | peek =>
      obtain ⟨ahead, hpeek, hahead⟩ := hstream.exists_peek hstart hlast
      simp only [Session.perform, Reader.perform, hpeek, ofReading, hcurrent]
      exact ⟨rfl, h.stay htokens hindex hahead⟩
  | next =>
      obtain ⟨behind, hnext, hbehind⟩ := hstream.exists_next hstart hlast
      simp only [Session.perform, Reader.perform, hnext, ofReading, hcurrent]
      exact ⟨rfl, h.pass_take htokens hindex hbehind⟩
  | advance =>
      obtain ⟨behind, htake, hbehind⟩ := hstream.exists_take hstart hlast 1
      simp only [Session.perform, Reader.perform, htake, ofReading, hleft]
      refine ⟨?_, h.pass_take htokens hindex hbehind⟩
      cases later <;> rfl
  | take count =>
      obtain ⟨behind, htake, hbehind⟩ := hstream.exists_take hstart hlast count
      simp only [Session.perform, Reader.perform, htake, ofReading, hleft]
      exact ⟨rfl, h.pass_take htokens hindex hbehind⟩
  | drain =>
      obtain ⟨behind, hdrain, hbehind⟩ := hstream.exists_drain hstart hlast
      simp only [Session.perform, Reader.perform, hdrain, ofReading, hleft]
      have hall : reader.tokens = front ++ (later ++ []) := by rw [List.append_nil, htokens]
      exact ⟨rfl, h.pass hall hindex (by simp) hbehind⟩
  | eat kind =>
      by_cases hkind : (later.headD last.finish.token).kind = kind
      · obtain ⟨behind, heat, hbehind⟩ := hstream.exists_eat_of_eq hstart hlast hkind
        simp only [Session.perform, Reader.perform, heat, ofReading, hcurrent, if_pos hkind]
        exact ⟨rfl, h.pass_take htokens hindex hbehind⟩
      · obtain ⟨ahead, heat, hahead⟩ := hstream.exists_eat_of_ne hstart hlast hkind
        simp only [Session.perform, Reader.perform, heat, ofReading, hcurrent, if_neg hkind]
        exact ⟨rfl, h.stay htokens hindex hahead⟩
  | skipTrivia =>
      obtain ⟨behind, hskip, hbehind⟩ := hstream.exists_skipTrivia hstart hlast
      simp only [Session.perform, Reader.perform, hskip, ofReading, Except.map, Reader.trivia,
        hleft]
      refine ⟨rfl, h.pass ?_ hindex ?_ hbehind⟩
      · rw [List.takeWhile_append_dropWhile, htokens]
      · rw [List.length_append]
        omega
  | isAtEnd =>
      obtain ⟨ahead, hend, hahead⟩ := hstream.exists_isAtEnd hstart hlast
      simp only [Session.perform, Reader.perform, hend, ofReading, htokens, hindex]
      refine ⟨?_, h.stay htokens hindex hahead⟩
      cases later <;> simp [Answer.withoutFrames]
  | checkpoint =>
      obtain ⟨before, hbefore, htaken⟩ := hstream.exists_checkpoint
      have hoffset : before.snapshot.offset = (later.headD last.finish.token).span.start :=
        hbefore.offset_eq
      simp only [Session.perform, Reader.perform, htaken, hcurrent]
      refine ⟨?_, h.mark_eq, ⟨front, later, htokens, hindex, hstream⟩, ?_⟩
      · rw [Answer.withoutFrames, hoffset, hindex, h.saved.length_eq]
      · refine List.rel_append h.saved (.cons ?_ .nil)
        exact ⟨front, later, before, htokens, hindex, hbefore, by rw [hindex]⟩
  | rewind id =>
      rcases getElem?_of_forall₂ h.saved id with
        ⟨htaken, hsaved⟩ | ⟨taken, target, htaken, hsaved, hat⟩
      · simp only [Session.perform, Reader.perform, htaken, hsaved]
        exact ⟨rfl, h⟩
      · obtain ⟨before, behind, place, hsplit, rfl, hplace, rfl⟩ := hat
        obtain ⟨moved, hrewind, hmoved⟩ := hstream.exists_rewind hplace
        simp only [Session.perform, Reader.perform, htaken, hsaved, hrewind]
        exact ⟨rfl, h.mark_eq, ⟨before, behind, hsplit, rfl, hmoved⟩, h.saved⟩
  | _ => simp [Command.isReading] at hreading

/-- From the same commands a stream and a reader at the same place give the same answers. -/
theorem performAll {commands : List Command} (h : session.Follows start last reader)
    (hstart : start.IsSound) (hlast : last.cursor.rest = [])
    (hreading : ∀ command ∈ commands, command.isReading) :
    (session.performAll commands).map
        (fun entry => (entry.1.withoutFrames, entry.2.stream.consumed)) =
      (reader.performAll commands).map fun entry => (entry.1, entry.2.index) := by
  induction commands generalizing session reader with
  | nil => rfl
  | cons command later ih =>
      obtain ⟨hfirst, hlater⟩ := List.forall_mem_cons.mp hreading
      obtain ⟨hanswer, hfollows⟩ := h.perform hstart hlast hfirst
      simp only [Session.performAll, Reader.performAll, List.map_cons]
      rw [hanswer, hfollows.consumed_eq, ih hfollows hlater]

end Session.Follows

/-! ## Every stream -/

/-- The tokens that a lexer gives and the mark behind them. -/
structure Gives (lexer : Lexer) (tokens : List Token) (mark : Token) : Prop where
  drain_eq : ∃ run, lexer.drain = .ok run ∧ run.tokens = tokens
  pull_eq : ∃ run, lexer.pull (tokens.length + 1) = .ok run ∧ run.tokens = tokens ++ [mark]
  kind_eq : mark.kind = .endOfInput
  start_eq : mark.span.start = lexer.cursor.text.length

/-- **A stream is an index into a list.**  From any commands that read, the stream of a fresh lexer
gives the answers of a reader over the tokens of that lexer, and counts the tokens in front of the
index of the reader. -/
theorem performAll_eq_reader {lexer : Lexer} (h : lexer.IsFresh) :
    ∃ tokens mark, Gives lexer tokens mark ∧
      ∀ commands : List Command, (∀ command ∈ commands, command.isReading) →
        (Session.performAll ⟨{ lexer }, []⟩ commands).map
            (fun entry => (entry.1.withoutFrames, entry.2.stream.consumed)) =
          (Reader.performAll { tokens, mark } commands).map
            fun entry => (entry.1, entry.2.index) := by
  have hsound := h.isNew.isSound
  obtain ⟨tokens, events, last, hreads, hlast, hdrain⟩ := Lexer.exists_reads_of_drain lexer
  obtain ⟨_, hpull⟩ := hreads.exists_pull_mark hlast
  refine ⟨tokens, last.finish.token, ⟨⟨_, hdrain, rfl⟩, ⟨_, hpull, rfl⟩, ?_, ?_⟩, ?_⟩
  · rw [Lexer.finish_token]
    rfl
  · rw [Lexer.finish_token, ← hreads.text]
    exact Lexer.offset_of_rest_nil hlast
  · intro commands hreading
    have hfollows : Session.Follows lexer last ⟨{ lexer }, []⟩
        { tokens, mark := last.finish.token } :=
      ⟨rfl, ⟨[], tokens, rfl, rfl, .of_reads hsound hreads⟩, .nil⟩
    exact hfollows.performAll hsound hlast hreading

/-- A client looks ahead and saves its place, skips to the end and meets the mark there, goes back
to the start and forward to the end again. -/
theorem performAll_eq_reader_of_rewinds :
    (Lexer.ofText ['\t', '#', 'c'] {}).IsFresh ∧
      ∃ tokens mark, Gives (Lexer.ofText ['\t', '#', 'c'] {}) tokens mark ∧
        (Session.performAll ⟨{ lexer := Lexer.ofText ['\t', '#', 'c'] {} }, []⟩
            [.peek, .checkpoint, .skipTrivia, .isAtEnd, .checkpoint, .eat .endOfInput, .rewind 0,
              .next, .rewind 1, .advance]).map
            (fun entry => (entry.1.withoutFrames, entry.2.stream.consumed)) =
          (Reader.performAll { tokens, mark }
            [.peek, .checkpoint, .skipTrivia, .isAtEnd, .checkpoint, .eat .endOfInput, .rewind 0,
              .next, .rewind 1, .advance]).map
            fun entry => (entry.1, entry.2.index) := by
  have hfresh : (Lexer.ofText ['\t', '#', 'c'] {}).IsFresh := .opened _ (.plain {}) rfl
  obtain ⟨tokens, mark, hgives, hall⟩ := performAll_eq_reader hfresh
  exact ⟨hfresh, tokens, mark, hgives, hall _ (by decide)⟩

end Stream

end ElixirLexer
