import ElixirLexer.Stream.Basic
import ElixirLexer.Proofs.Snapshots

/-!
# What a stream hands out

The lexer inside a stream may be one token further on than the stream itself.  `HandedOut` says
which tokens a stream has handed out and which are left, and where its lexer stands, with a token
read ahead and without one.  Each operation is described once by what it does to these two lists, so
that nothing behind this file has to ask whether a token has been read ahead.

All operations succeed, and those that skip or take tokens come to their end within the number of
steps that they allow themselves.
-/

namespace ElixirLexer

namespace Stream

/-- A stream over the lexer `start` has handed out `front`, and `later` is left up to the end of the
text at `last`. -/
inductive HandedOut (start : Lexer) (front later : List Token) (last : Lexer) : Stream → Prop
  | unread {lexer : Lexer} (hlexer : Lexer.StandsBetween start front later last lexer) :
      HandedOut start front later last ⟨lexer, none, front.length⟩
  /-- The token that is read ahead is kept with the place in front of it. -/
  | ahead {before lexer : Lexer} (hbefore : Lexer.StandsBetween start front later last before)
      (hlexer : Lexer.StandsBetween start (front ++ later.take 1) (later.drop 1) last lexer) :
      HandedOut start front later last
        ⟨lexer, some (before.snapshot, later.headD last.finish.token), front.length⟩

/-- A stream over a lexer has handed out nothing. -/
theorem HandedOut.of_reads {start last : Lexer} {tokens : List Token} (hstart : start.IsSound)
    (hreads : Lexer.Reads start tokens last) :
    HandedOut start [] tokens last { lexer := start } :=
  .unread (.start_self hstart hreads)

namespace HandedOut

variable {start last : Lexer} {front later : List Token} {stream : Stream}

theorem consumed_eq (h : HandedOut start front later last stream) :
    stream.consumed = front.length := by
  cases h <;> rfl

theorem reads (h : HandedOut start front later last stream) :
    Lexer.Reads start (front ++ later) last := by
  cases h with
  | unread hlexer => exact hlexer.reads
  | ahead hbefore hlexer => exact hbefore.reads

/-- The next token is the end mark if no token is left. -/
theorem isEnd_headD (h : HandedOut start front later last stream) :
    (later.headD last.finish.token).isEnd = later.isEmpty := by
  cases later with
  | nil =>
      rw [List.headD_nil, Lexer.finish_token]
      rfl
  | cons token later =>
      have hkind := h.reads.ne_endOfInput token (by simp)
      simpa [Token.isEnd] using hkind

/-- There is at most the token read ahead besides one for each character ahead. -/
theorem length_le (h : HandedOut start front later last stream) :
    later.length ≤ stream.lexer.cursor.remaining + 1 := by
  cases h with
  | unread hlexer => exact Nat.le_succ_of_le hlexer.length_le
  | @ahead before lexer hbefore hlexer =>
      have hle := hlexer.length_le
      rw [List.length_drop] at hle
      show later.length ≤ lexer.cursor.remaining + 1
      omega

/-! ## Single tokens -/

section

variable (hstart : start.IsSound) (hlast : last.cursor.rest = [])

include hstart hlast

/-- Looking ahead gives the next token and leaves it there. -/
theorem exists_peek (h : HandedOut start front later last stream) :
    ∃ ahead, stream.peek = .ok (later.headD last.finish.token, ahead) ∧
      HandedOut start front later last ahead := by
  cases h with
  | @unread lexer hlexer =>
      obtain ⟨step, hstep⟩ := Lexer.exists_step lexer
      obtain ⟨htoken, hnext⟩ := hlexer.step hstart hlast hstep
      refine ⟨_, ?_, .ahead hlexer hnext⟩
      simp [peek, hstep, htoken, bind, Except.bind, pure, Except.pure]
  | ahead hbefore hlexer => exact ⟨_, rfl, .ahead hbefore hlexer⟩

/-- The next token is handed out; the end mark stays. -/
theorem exists_next (h : HandedOut start front later last stream) :
    ∃ behind, stream.next = .ok (later.headD last.finish.token, behind) ∧
      HandedOut start (front ++ later.take 1) (later.drop 1) last behind := by
  -- The end mark is handed out without being counted, and it takes no token from those left.
  have hconsumed : (if (later.headD last.finish.token).isEnd then front.length
      else front.length + 1) = (front ++ later.take 1).length := by
    rw [h.isEnd_headD]
    cases later <;> simp
  cases h with
  | @unread lexer hlexer =>
      obtain ⟨step, hstep⟩ := Lexer.exists_step lexer
      obtain ⟨htoken, hnext⟩ := hlexer.step hstart hlast hstep
      refine ⟨_, ?_, .unread hnext⟩
      simp only [next, handOut, hstep, htoken, hconsumed, bind, Except.bind, pure, Except.pure]
  | ahead hbefore hlexer =>
      refine ⟨_, ?_, .unread hlexer⟩
      simp only [next, handOut, hconsumed]

theorem exists_eat_of_eq {kind : Kind} (h : HandedOut start front later last stream)
    (hkind : (later.headD last.finish.token).kind = kind) :
    ∃ behind, stream.eat kind = .ok (some (later.headD last.finish.token), behind) ∧
      HandedOut start (front ++ later.take 1) (later.drop 1) last behind := by
  obtain ⟨ahead, hpeek, hahead⟩ := h.exists_peek hstart hlast
  obtain ⟨behind, hnext, hbehind⟩ := hahead.exists_next hstart hlast
  refine ⟨behind, ?_, hbehind⟩
  simp only [eat, hpeek, hkind, hnext, bind, Except.bind, pure, Except.pure, if_true]

theorem exists_eat_of_ne {kind : Kind} (h : HandedOut start front later last stream)
    (hkind : (later.headD last.finish.token).kind ≠ kind) :
    ∃ ahead, stream.eat kind = .ok (none, ahead) ∧
      HandedOut start front later last ahead := by
  obtain ⟨ahead, hpeek, hahead⟩ := h.exists_peek hstart hlast
  refine ⟨ahead, ?_, hahead⟩
  simp only [eat, hpeek, if_neg hkind, bind, Except.bind, pure, Except.pure]

theorem exists_isAtEnd (h : HandedOut start front later last stream) :
    ∃ ahead, stream.isAtEnd = .ok (later.isEmpty, ahead) ∧
      HandedOut start front later last ahead := by
  obtain ⟨ahead, hpeek, hahead⟩ := h.exists_peek hstart hlast
  refine ⟨ahead, ?_, hahead⟩
  simp only [isAtEnd, hpeek, h.isEnd_headD, bind, Except.bind, pure, Except.pure]

/-! ## Several tokens -/

/-- Blanks and comments are skipped if there are enough steps for all of them and one more. -/
theorem exists_skipTriviaUpTo {count : Nat} (h : HandedOut start front later last stream)
    (hcount : (later.takeWhile fun token => token.kind.isTrivia).length < count) :
    ∃ behind, skipTriviaUpTo count stream = .ok behind ∧
      HandedOut start (front ++ later.takeWhile fun token => token.kind.isTrivia)
        (later.dropWhile fun token => token.kind.isTrivia) last behind := by
  -- Every step but the last uses up a token, so the steps outlast the tokens to be skipped.
  induction count generalizing front later stream with
  | zero => omega
  | succ count ih =>
      obtain ⟨ahead, hpeek, hahead⟩ := h.exists_peek hstart hlast
      cases later with
      | nil =>
          have hmark : last.finish.token.kind.isTrivia = false := by
            rw [Lexer.finish_token]
            rfl
          refine ⟨ahead, ?_, by simpa using hahead⟩
          simp [skipTriviaUpTo, hpeek, hmark, bind, Except.bind, pure, Except.pure]
      | cons token later =>
          rw [List.headD_cons] at hpeek
          cases htrivia : token.kind.isTrivia with
          | false =>
              refine ⟨ahead, ?_, by simpa [htrivia] using hahead⟩
              simp [skipTriviaUpTo, hpeek, htrivia, bind, Except.bind, pure, Except.pure]
          | true =>
              obtain ⟨middle, hnext, hmiddle⟩ := hahead.exists_next hstart hlast
              simp only [List.takeWhile_cons, htrivia, if_true, List.length_cons] at hcount
              obtain ⟨behind, hskip, hbehind⟩ := ih hmiddle (by simpa using hcount)
              refine ⟨behind, ?_, by simpa [htrivia] using hbehind⟩
              simp [skipTriviaUpTo, hpeek, htrivia, hnext, hskip, bind, Except.bind]

theorem exists_skipTrivia (h : HandedOut start front later last stream) :
    ∃ behind, stream.skipTrivia = .ok behind ∧
      HandedOut start (front ++ later.takeWhile fun token => token.kind.isTrivia)
        (later.dropWhile fun token => token.kind.isTrivia) last behind := by
  refine h.exists_skipTriviaUpTo hstart hlast ?_
  have hprefix := (List.takeWhile_prefix (fun token : Token => token.kind.isTrivia)
    (l := later)).length_le
  have hle := h.length_le
  omega

/-- Taking hands out as many tokens as are asked for, or all that are left. -/
theorem exists_take (count : Nat) (h : HandedOut start front later last stream) :
    ∃ behind, stream.take count = .ok (later.take count, behind) ∧
      HandedOut start (front ++ later.take count) (later.drop count) last behind := by
  induction count generalizing front later stream with
  | zero => exact ⟨stream, rfl, by simpa using h⟩
  | succ count ih =>
      have hend := h.isEnd_headD
      obtain ⟨middle, hnext, hmiddle⟩ := h.exists_next hstart hlast
      cases later with
      | nil =>
          refine ⟨middle, ?_, hmiddle⟩
          rw [List.headD_nil] at hend hnext
          simp [take, hnext, hend, bind, Except.bind, pure, Except.pure]
      | cons token later =>
          obtain ⟨behind, htake, hbehind⟩ := ih hmiddle
          rw [List.headD_cons] at hend hnext
          refine ⟨behind, ?_, by simpa using hbehind⟩
          simp only [List.drop_succ_cons, List.drop_zero] at htake
          simp [take, hnext, hend, htake, bind, Except.bind, pure, Except.pure]

theorem exists_drain (h : HandedOut start front later last stream) :
    ∃ behind, stream.drain = .ok (later, behind) ∧
      HandedOut start (front ++ later) [] last behind := by
  have hcount : later.length ≤ stream.lexer.cursor.remaining + 2 :=
    Nat.le_succ_of_le h.length_le
  obtain ⟨behind, htake, hbehind⟩ :=
    h.exists_take hstart hlast (stream.lexer.cursor.remaining + 2)
  rw [List.take_of_length_le hcount] at htake hbehind
  rw [List.drop_of_length_le hcount] at hbehind
  exact ⟨behind, htake, hbehind⟩

end

/-! ## Going back -/

/-- A checkpoint is the place in front of the next token, which may have been read ahead. -/
theorem exists_checkpoint (h : HandedOut start front later last stream) :
    ∃ before, Lexer.StandsBetween start front later last before ∧
      stream.checkpoint = ⟨before.snapshot, front.length⟩ := by
  cases h with
  | unread hlexer => exact ⟨_, hlexer, rfl⟩
  | ahead hbefore hlexer => exact ⟨_, hbefore, rfl⟩

/-- A stream can be taken to the place of any checkpoint. -/
theorem exists_rewind {target : Lexer} {before behind : List Token}
    (h : HandedOut start front later last stream)
    (htarget : Lexer.StandsBetween start before behind last target) :
    ∃ moved, stream.rewind ⟨target.snapshot, before.length⟩ = (.ok (), moved) ∧
      HandedOut start before behind last moved := by
  -- A token that has been read ahead is dropped, wherever the lexer stands behind it.
  have hlexer : ∃ front later, Lexer.StandsBetween start front later last stream.lexer := by
    cases h with
    | unread hlexer => exact ⟨_, _, hlexer⟩
    | ahead hbefore hlexer => exact ⟨_, _, hlexer⟩
  obtain ⟨_, _, hstands⟩ := hlexer
  obtain ⟨moved, hrestore, hmoved, -⟩ := hstands.exists_restore htarget
  refine ⟨⟨moved, none, before.length⟩, ?_, .unread hmoved⟩
  simp only [rewind, hrestore]

end HandedOut

end Stream

end ElixirLexer
