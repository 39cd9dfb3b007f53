import Mathlib.Data.List.Forall2
import ElixirLexer.Proofs.Replay
import ElixirLexer.Proofs.Reports

/-!
# The diagnostics account for everything that is wrong

The diagnostics of a text are the reports of its bad characters, in the order of the tokens, and
behind them the reports of the constructs that are still open at its end, innermost first
(`tokenize_accounts`).  Every frame that is left at the end stands for such a construct: the piece
that a frame around a sigil waits for is still ahead, and the frame of modifiers is dropped before
the reports are made.  So whether a text is balanced, and whether it has problems at all, can be
told from its diagnostics.
-/

namespace ElixirLexer

/-! ## What is accounted for -/

/-- The problem of a construct without its end. -/
def Construct.problem : Construct → Problem
  | .sigil => .unterminatedSigil
  | .string => .unterminatedString
  | .charList => .unterminatedCharList
  | .heredoc | .sigilHeredoc => .unterminatedHeredoc
  | .interpolation => .unterminatedInterpolation

/-- The report of a token that is a bad character. -/
structure Diagnostic.IsOfToken (text : List Char) (token : Token) (diagnostic : Diagnostic) :
    Prop where
  problem : ∃ c, text[token.span.start]? = some c ∧ diagnostic.problem = .badCharacter c
  offset_eq : diagnostic.offset = token.span.start
  origin_eq : diagnostic.origin = token.span.start

/-- The report of a frame that is left at the end of the text. -/
structure Diagnostic.IsOfFrame (text : List Char) (frame : Frame) (diagnostic : Diagnostic) :
    Prop where
  problem : ∃ pending, frame.pending? = some pending ∧
    diagnostic.problem = pending.construct.problem
  offset_eq : diagnostic.offset = text.length
  origin_eq : diagnostic.origin = frame.openedAt

/-- The bad characters among some tokens that are to be reported. -/
def reportedTokens (options : Options) (tokens : List Token) : List Token :=
  if options.reportBadCharacters then tokens.filter fun token => token.kind = .badCharacter else []

/-- What is known about a text accounts for all that is wrong with it, and for nothing else. -/
structure Lexed.Accounts (text : List Char) (options : Options) (lexed : Lexed) : Prop where
  /-- One report for each bad character, then one for each frame, from the top to the bottom. -/
  diagnostics_eq : ∃ bad unended above, lexed.diagnostics = bad ++ unended ∧
    lexed.finalFrames = ⟨.initial, 0⟩ :: above ∧
    List.Forall₂ (Diagnostic.IsOfToken text) (reportedTokens options lexed.tokens) bad ∧
    List.Forall₂ (Diagnostic.IsOfFrame text) above.reverse unended ∧
    unended.Pairwise fun inner outer => outer.origin < inner.origin
  /-- No frame is left that waits for a piece of a sigil. -/
  isTransient_eq : ∀ frame ∈ lexed.finalFrames, frame.mode.isTransient = false
  isBalanced_iff : lexed.isBalanced ↔
    ∀ diagnostic ∈ lexed.diagnostics, diagnostic.problem.isUnterminated = false
  result_iff : (∃ tokens, lexed.result = .ok tokens) ↔ lexed.isBalanced ∧
    (options.reportBadCharacters → ∀ token ∈ lexed.tokens, token.kind ≠ .badCharacter)

/-! ## Reports of tokens and frames -/

/-- Where a function answers for exactly the chosen members of a list, its answers are those of the
chosen members, one for one. -/
theorem forall₂_filter_filterMap {α β : Type} {chosen : α → Bool} {answer : α → Option β}
    {related : α → β → Prop} {list : List α}
    (hsome : ∀ a ∈ list, chosen a = true → ∃ b, answer a = some b ∧ related a b)
    (hnone : ∀ a ∈ list, chosen a = false → answer a = none) :
    List.Forall₂ related (list.filter chosen) (list.filterMap answer) := by
  induction list with
  | nil => exact .nil
  | cons a list ih =>
      obtain ⟨hfirst, hsome⟩ := List.forall_mem_cons.mp hsome
      obtain ⟨hskip, hnone⟩ := List.forall_mem_cons.mp hnone
      cases hchosen : chosen a with
      | true =>
          obtain ⟨b, hb, hrelated⟩ := hfirst hchosen
          rw [List.filter_cons_of_pos hchosen, List.filterMap_cons_some hb]
          exact .cons hrelated (ih hsome hnone)
      | false =>
          rw [List.filter_cons_of_neg (by simp [hchosen]),
            List.filterMap_cons_none (hskip hchosen)]
          exact ih hsome hnone

/-- Every bad character that is to be reported has its report. -/
theorem forall₂_reports {text : List Char} {tokens : List Token} (options : Options)
    (h : ∀ token ∈ tokens, token.span.start < text.length) :
    List.Forall₂ (Diagnostic.IsOfToken text) (reportedTokens options tokens)
      (reports text options tokens) := by
  unfold reportedTokens reports
  split
  · refine forall₂_filter_filterMap ?_ ?_
    · intro token hmem hkind
      have hlt := h token hmem
      have hchar : text[token.span.start]? = some text[token.span.start] :=
        List.getElem?_eq_getElem hlt
      refine ⟨Diagnostic.badCharacter text[token.span.start] token.span.start, ?_,
        ⟨_, hchar, rfl⟩, rfl, rfl⟩
      simp [Token.report?, of_decide_eq_true hkind, hchar]
    · intro token hmem hkind
      simp [Token.report?, of_decide_eq_false hkind]
  · exact .nil

/-- The problem of a frame is that of its construct. -/
theorem Frame.ofOpen?_mode (frame : Frame) :
    Problem.ofOpen? frame.mode = frame.pending?.map fun pending => pending.construct.problem := by
  unfold Problem.ofOpen? Frame.pending?
  cases frame.mode with
  | group group =>
      obtain ⟨literal, _, _, _, _⟩ := group
      cases literal <;> rfl
  | heredocOpen heredoc | heredocBody heredoc =>
      by_cases hsigil : heredoc.literal = .sigil <;>
        simp [Heredoc.construct, hsigil, Construct.problem]
  | _ => rfl

/-- Every frame that stands for a construct has its report. -/
theorem forall₂_unterminated {text : List Char} {stack : Stack}
    (h : ∀ frame ∈ stack.above, ∃ pending, frame.pending? = some pending) :
    List.Forall₂ (Diagnostic.IsOfFrame text) stack.above
      (Lexer.unterminated stack text.length) := by
  have hall : stack.above.filter (fun _ => true) = stack.above := by simp
  rw [← hall]
  refine forall₂_filter_filterMap ?_ (by simp)
  intro frame hmem _
  obtain ⟨pending, hpending⟩ := h frame hmem
  refine ⟨⟨pending.construct.problem, text.length, frame.openedAt⟩, ?_, ⟨pending, hpending, rfl⟩,
    rfl, rfl⟩
  rw [Diagnostic.unterminated?, Frame.ofOpen?_mode, hpending]
  rfl

/-! ## The frames at the end of a text -/

namespace Shaped

variable {text : List Char} {offset : Nat} {above below : List Frame} {frame : Frame}

/-- What lies beneath another frame is code or the body of a literal. -/
theorem isTransient_beneath (h : Shaped text offset (frame :: below)) :
    ∀ lower ∈ below, lower.mode.isTransient = false := by
  induction below generalizing offset frame with
  | nil => simp
  | cons lower lowest ih =>
      refine List.forall_mem_cons.mpr ⟨?_, ih (h.beneath (Nat.le_refl _))⟩
      obtain ⟨-, hmodes⟩ := h.nested.2.1
      cases hmode : lower.mode <;>
        simp_all [Mode.isTransient, Mode.isInterpolation, Mode.isInterpolating]

/-- At the end of the text no piece of a sigil is ahead, so nothing waits for one. -/
theorem isSigilHead_at_end (h : Shaped text text.length (frame :: below)) :
    frame.mode.isSigilHead = false := by
  have hopened := h.nested.1
  have hstands := h.stands frame rfl
  -- The delimiter that the tilde insisted on is a third character of the text.
  have hlength {letter : Char} (hsigil : BeginsSigil letter (text.drop frame.openedAt)) :
      frame.openedAt + 3 ≤ text.length := by
    obtain ⟨delimiter, tail, -, htilde, -, -⟩ := hsigil.drop_eq
    have hdrop := congrArg List.length htilde
    simp only [List.length_drop, List.length_cons] at hdrop
    omega
  cases hmode : frame.mode with
  | sigilName =>
      rw [hmode] at hopened
      obtain ⟨letter, hsigil⟩ := hopened
      have hoffset : text.length = frame.openedAt + 1 := by
        simpa [Frame.StandsAt, hmode] using hstands
      have hle := hlength hsigil
      omega
  | sigilDelimiter interpolating =>
      rw [hmode] at hopened
      obtain ⟨letter, hsigil, -⟩ := hopened
      have hoffset : text.length = frame.openedAt + 2 := by
        simpa [Frame.StandsAt, hmode] using hstands
      have hle := hlength hsigil
      omega
  | _ => rfl

/-- The frames that are left when the modifiers have been dropped. -/
theorem isTransient_at_end (h : Shaped text text.length above)
    (htop : ∀ frame, above.head? = some frame → frame.mode ≠ .sigilModifiers) :
    ∀ frame ∈ above, frame.mode.isTransient = false := by
  cases above with
  | nil => simp
  | cons frame below =>
      refine List.forall_mem_cons.mpr ⟨?_, h.isTransient_beneath⟩
      have hhead := h.isSigilHead_at_end
      have hmode := htop frame rfl
      cases hcase : frame.mode <;> simp_all [Mode.isTransient, Mode.isSigilHead]

end Shaped

/-- Where no modifiers are on top, every frame stands for a construct. -/
theorem Shaped.exists_pending {text : List Char} {offset : Nat} {above : List Frame}
    (h : Shaped text offset above)
    (htop : ∀ frame, above.head? = some frame → frame.mode ≠ .sigilModifiers) :
    ∀ frame ∈ above, ∃ pending, frame.pending? = some pending := by
  intro frame hmem
  have hmap : frame.pending? ∈ above.map Frame.pending? := List.mem_map_of_mem hmem
  rw [h.map_pending? htop] at hmap
  obtain ⟨pending, -, hpending⟩ := List.mem_map.mp hmap
  exact ⟨pending, hpending.symm⟩

/-- No frame of modifiers is on top once they have been dropped. -/
theorem Lexer.head?_withoutModifiers (stack : Stack) :
    ∀ frame, (withoutModifiers stack).above.head? = some frame →
      frame.mode ≠ .sigilModifiers := by
  intro frame hframe hmode
  have hhead := List.head?_dropWhile_not (fun frame : Frame => frame.mode == .sigilModifiers)
    stack.above
  rw [withoutModifiers] at hframe
  rw [hframe] at hhead
  simp [hmode] at hhead

/-! ## Whole texts -/

theorem Construct.isUnterminated_problem (construct : Construct) :
    construct.problem.isUnterminated = true := by
  cases construct <;> rfl

/-- A bad character lacks no end. -/
theorem isUnterminated_of_mem_bad {text : List Char} {tokens : List Token}
    {bad : List Diagnostic} (h : List.Forall₂ (Diagnostic.IsOfToken text) tokens bad) :
    ∀ diagnostic ∈ bad, diagnostic.problem.isUnterminated = false := by
  induction h with
  | nil => simp
  | cons hfirst _ ih =>
      refine List.forall_mem_cons.mpr ⟨?_, ih⟩
      obtain ⟨c, -, hproblem⟩ := hfirst.problem
      rw [hproblem]
      rfl

/-- A frame that is left lacks its end. -/
theorem isUnterminated_of_mem_unended {text : List Char} {frames : List Frame}
    {unended : List Diagnostic} (h : List.Forall₂ (Diagnostic.IsOfFrame text) frames unended) :
    ∀ diagnostic ∈ unended, diagnostic.problem.isUnterminated = true := by
  induction h with
  | nil => simp
  | cons hfirst _ ih =>
      refine List.forall_mem_cons.mpr ⟨?_, ih⟩
      obtain ⟨pending, -, hproblem⟩ := hfirst.problem
      rw [hproblem]
      exact pending.construct.isUnterminated_problem

/-- The reports of frames lie in the order of their origins. -/
theorem pairwise_origin {text : List Char} {frames : List Frame} {unended : List Diagnostic}
    (h : List.Forall₂ (Diagnostic.IsOfFrame text) frames unended)
    (hframes : frames.Pairwise fun inner outer => outer.openedAt < inner.openedAt) :
    unended.Pairwise fun inner outer => outer.origin < inner.origin := by
  have horigin : unended.map Diagnostic.origin = frames.map Frame.openedAt := by
    clear hframes
    induction h with
    | nil => rfl
    | cons hfirst _ ih => rw [List.map_cons, List.map_cons, ih, hfirst.origin_eq]
  have hmap : (unended.map Diagnostic.origin).Pairwise fun inner outer => outer < inner := by
    rw [horigin]
    exact List.pairwise_map.mpr hframes
  exact List.pairwise_map.mp hmap

/-- What the diagnostics are decides what can be told from them. -/
theorem Lexed.accounts_of_eq {text : List Char} {options : Options} {lexed : Lexed}
    {bad unended : List Diagnostic} {above : List Frame}
    (hdiagnostics : lexed.diagnostics = bad ++ unended)
    (hframes : lexed.finalFrames = ⟨.initial, 0⟩ :: above)
    (hbad : List.Forall₂ (Diagnostic.IsOfToken text) (reportedTokens options lexed.tokens) bad)
    (hunended : List.Forall₂ (Diagnostic.IsOfFrame text) above.reverse unended)
    (habove : above.reverse.Pairwise fun inner outer => outer.openedAt < inner.openedAt)
    (htransient : ∀ frame ∈ above, frame.mode.isTransient = false) :
    lexed.Accounts text options := by
  have hbalanced : lexed.isBalanced ↔ unended = [] := by
    have hlength := hunended.length_eq
    rw [List.length_reverse] at hlength
    rw [Lexed.isBalanced, hframes, beq_iff_eq, List.length_cons, hlength,
      ← List.length_eq_zero_iff]
    omega
  refine ⟨⟨bad, unended, above, hdiagnostics, hframes, hbad, hunended,
    pairwise_origin hunended habove⟩, ?_, ?_, ?_⟩
  · rw [hframes]
    exact List.forall_mem_cons.mpr ⟨rfl, htransient⟩
  · rw [hbalanced, hdiagnostics]
    constructor
    · rintro rfl
      rw [List.append_nil]
      exact isUnterminated_of_mem_bad hbad
    · intro hall
      -- A report of a frame would contradict what is supposed of all reports.
      refine List.eq_nil_iff_forall_not_mem.mpr ?_
      intro diagnostic hmem
      have htrue := isUnterminated_of_mem_unended hunended diagnostic hmem
      have hfalse := hall diagnostic (List.mem_append_right _ hmem)
      exact Bool.false_ne_true (hfalse.symm.trans htrue)
  · have hok : (∃ tokens, lexed.result = .ok tokens) ↔ lexed.diagnostics = [] := by
      unfold Lexed.result
      cases lexed.diagnostics <;> simp
    have hreported : bad = [] ↔ reportedTokens options lexed.tokens = [] := by
      rw [← List.length_eq_zero_iff, ← hbad.length_eq, List.length_eq_zero_iff]
    rw [hok, hdiagnostics, List.append_eq_nil_iff, hreported, hbalanced, and_comm,
      reportedTokens]
    by_cases hreport : options.reportBadCharacters <;> simp [hreport]

/-- **The diagnostics account for everything that is wrong.**  They are the reports of the bad
characters, if these are to be reported, and of the frames that are left at the end, and no frame
is left that needs no end.  A text is balanced if nothing lacks its end, and has a result if it is
balanced and no bad character is reported. -/
theorem tokenize_accounts (text : List Char) (options : Options) :
    ∃ lexed, tokenize options text = .ok lexed ∧ lexed.Accounts text options := by
  obtain ⟨tokens, last, hreads, hlast, htokenize⟩ :=
    Lexer.exists_reads_of_tokenize text options
  refine ⟨_, htokenize, ?_⟩
  have hfinished : last.finished = false := hreads.finished
  have htext : last.cursor.text = text := by
    rw [hreads.text]
    exact Cursor.text_ofText text
  have hoffset : last.offset = text.length := by
    rw [← htext]
    exact Lexer.offset_of_rest_nil hlast
  have hstack := Lexer.finish_stack hfinished
  have hshaped := ((Lexer.IsShaped.ofText text options).reads hreads).finish
  have hbase := hshaped.base_eq
  have hframes := hshaped.shaped
  rw [Lexer.offset, Lexer.finish_cursor, ← Lexer.offset, hoffset] at hframes
  rw [hstack] at hbase hframes
  have hpending := hframes.exists_pending (Lexer.head?_withoutModifiers last.stack)
  have hdiagnostics : last.finish.lexer.diagnostics = reports text options tokens ++
      Lexer.unterminated (Lexer.withoutModifiers last.stack) text.length := by
    rw [Lexer.finish_diagnostics hfinished, hreads.diagnostics, hoffset]
    simp [Lexer.ofText]
  have hfinal : last.finish.lexer.stack.frames =
      ⟨.initial, 0⟩ :: (Lexer.withoutModifiers last.stack).above.reverse := by
    rw [hstack, Stack.frames, hbase]
  have htiles := hreads.tiles
  rw [hoffset] at htiles
  refine Lexed.accounts_of_eq hdiagnostics hfinal ?_ ?_ ?_ ?_
  · exact forall₂_reports options fun token hmem => (htiles.start_bounds token hmem).2
  · rw [List.reverse_reverse]
    exact forall₂_unterminated hpending
  · rw [List.reverse_reverse]
    exact hframes.pairwise_openedAt
  · intro frame hmem
    exact hframes.isTransient_at_end (Lexer.head?_withoutModifiers last.stack) frame
      (List.mem_reverse.mp hmem)

end ElixirLexer
