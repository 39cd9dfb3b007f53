import ElixirLexer.Proofs.Reads

/-!
# What the rules see

A rule sees the text ahead and the mode.  Two rules see a little more: white space asks whether an
accepted byte-order mark stands at the very start of the text, and the lines of a heredoc ask
whether they start here.  So what is selected at a place does not depend on anything else that lies
behind it, or on any other option (`classify_congr`).

Two lexers that stand at the same offset under the same frames and see the same therefore read the
same tokens from there on (`SameView.reads`), and leave the same frames at the end of the text.
What they have reported, and what they are to report, may differ.
-/

namespace ElixirLexer

/-! ## Places that look alike -/

/-- The modes whose rules ask whether a line starts at the cursor. -/
def Mode.isLined : Mode → Bool
  | .heredocBody _ => true
  | _ => false

/-- Two scans show the same to every rule. -/
structure Scan.Resembles (first second : Scan) : Prop where
  rest_eq : second.rest = first.rest
  mode_eq : second.mode = first.mode
  mark_eq : second.hasByteOrderMark = first.hasByteOrderMark
  lineStart_eq : first.mode.isLined → second.cursor.atLineStart = first.cursor.atLineStart

/-- Every rule answers the same where it sees the same. -/
theorem Rule.answer_congr {first second : Scan} (h : first.Resembles second) (rule : Rule) :
    rule.answer second = rule.answer first := by
  obtain ⟨⟨before, rest⟩, mode, options⟩ := first
  obtain ⟨⟨before', rest'⟩, mode', options'⟩ := second
  obtain ⟨hrest, hmode, hmark, hline⟩ := h
  obtain rfl : rest' = rest := hrest
  obtain rfl : mode' = mode := hmode
  cases rule with
  | whitespace =>
      simp only [answer, Scan.whitespace, hmark]
      rfl
  | heredocTerminator =>
      cases mode' with
      | heredocBody heredoc =>
          simp only [answer, Scan.heredocTerminator, hline rfl]
          rfl
      | _ => rfl
  | heredocLine =>
      cases mode' with
      | heredocBody heredoc =>
          simp only [answer, Scan.heredocLine, hline rfl]
          rfl
      | _ => rfl
  | _ => rfl

theorem classify_congr {cursor other : Cursor} {mode : Mode} {options others : Options}
    (h : Scan.Resembles ⟨cursor, mode, options⟩ ⟨other, mode, others⟩) :
    classify other mode others = classify cursor mode options := by
  have hanswers : (fun rule => Rule.answer rule ⟨other, mode, others⟩) =
      fun rule => Rule.answer rule ⟨cursor, mode, options⟩ := funext (Rule.answer_congr h)
  rw [classify, classify, hanswers]

/-- The same frames give way, and the same match is chosen beneath them. -/
theorem Lexer.choose_congr {cursor other : Cursor} {options others : Options}
    (hoffset : other.offset = cursor.offset)
    (h : ∀ mode, Scan.Resembles ⟨cursor, mode, options⟩ ⟨other, mode, others⟩) (base : Nat)
    (above : List Frame) :
    choose other others base above = choose cursor options base above := by
  induction above with
  | nil => rw [choose, choose, classify_congr (h .initial)]
  | cons frame below ih => rw [choose, choose, classify_congr (h frame.mode), ih, hoffset]

/-- Behind the first character of a text no byte-order mark counts as white space. -/
theorem Scan.hasByteOrderMark_of_before {cursor : Cursor} (mode : Mode) (options : Options)
    (h : cursor.before ≠ []) : hasByteOrderMark ⟨cursor, mode, options⟩ = false := by
  have hoffset : cursor.offset ≠ 0 := fun hzero => h (List.length_eq_zero_iff.mp hzero)
  simp [hasByteOrderMark, hoffset]

theorem Scan.hasByteOrderMark_skip {cursor : Cursor} {count : Nat} (mode : Mode) (options : Options)
    (hpos : 0 < count) (hle : count ≤ cursor.rest.length) :
    hasByteOrderMark ⟨cursor.skip count, mode, options⟩ = false := by
  refine hasByteOrderMark_of_before mode options (List.ne_nil_of_length_pos ?_)
  have hoffset := Cursor.offset_skip hle
  rw [Cursor.offset] at hoffset
  omega

/-- Whether a line starts behind some characters can be told from the last of them. -/
theorem Cursor.atLineStart_skip {cursor other : Cursor} {count : Nat}
    (hrest : other.rest = cursor.rest) (hpos : 0 < count) (hle : count ≤ cursor.rest.length) :
    (other.skip count).atLineStart = (cursor.skip count).atLineStart := by
  have htaken : (cursor.rest.take count).reverse ≠ [] := by
    rw [ne_eq, List.reverse_eq_nil_iff, List.take_eq_nil_iff, not_or, ← List.length_eq_zero_iff]
    omega
  obtain ⟨c, behind, hbehind⟩ := List.exists_cons_of_ne_nil htaken
  simp only [skip, hrest, hbehind]
  rfl

namespace Lexer

/-! ## Lexers that see the same -/

/-- Two lexers stand at the same offset under the same frames and see the same. -/
structure SameView (first second : Lexer) : Prop where
  rest_eq : second.cursor.rest = first.cursor.rest
  offset_eq : second.offset = first.offset
  lineStart_eq : second.cursor.atLineStart = first.cursor.atLineStart
  mark_eq : Scan.hasByteOrderMark ⟨second.cursor, .initial, second.options⟩ =
    Scan.hasByteOrderMark ⟨first.cursor, .initial, first.options⟩
  stack_eq : second.stack = first.stack
  finished_eq : second.finished = first.finished

namespace SameView

variable {first second : Lexer}

theorem resembles (h : SameView first second) (mode : Mode) :
    Scan.Resembles ⟨first.cursor, mode, first.options⟩ ⟨second.cursor, mode, second.options⟩ where
  rest_eq := h.rest_eq
  mode_eq := rfl
  mark_eq := h.mark_eq
  lineStart_eq _ := h.lineStart_eq

/-- Before the end of the text the same choice is carried out, and the same is seen behind it. -/
theorem exists_carryOut (h : SameView first second) (hrest : first.cursor.rest ≠ []) :
    ∃ choice stack, first.step = .ok (first.carryOut choice stack) ∧
      second.step = .ok (second.carryOut choice stack) ∧
      SameView (first.carryOut choice stack).lexer (second.carryOut choice stack).lexer := by
  obtain ⟨choice, stack, hchosen, hcarried⟩ := exists_chosen hrest
  have hlength := hchosen.length_le
  have hpos := hchosen.fits.pos
  have hother := choose_congr h.offset_eq h.resembles first.stack.base first.stack.above
  have hsecond : second.step = .ok (second.carryOut choice stack) :=
    step_eq_carryOut (by rwa [h.rest_eq]) (by rw [h.stack_eq, hother, hchosen.choose_eq])
      (by rwa [h.rest_eq]) (by rw [h.offset_eq, hchosen.apply_eq])
  have hoffset : (second.cursor.skip choice.found.length).offset =
      (first.cursor.skip choice.found.length).offset := by
    rw [Cursor.offset_skip hlength, Cursor.offset_skip (by rwa [h.rest_eq])]
    exact congrArg (· + choice.found.length) h.offset_eq
  exact ⟨choice, stack, hcarried, hsecond, {
    rest_eq := congrArg (List.drop choice.found.length) h.rest_eq
    offset_eq := hoffset
    lineStart_eq := Cursor.atLineStart_skip h.rest_eq hpos hlength
    mark_eq := by
      rw [carryOut, carryOut, Scan.hasByteOrderMark_skip _ _ hpos hlength,
        Scan.hasByteOrderMark_skip _ _ hpos (by rwa [h.rest_eq])]
    stack_eq := rfl
    finished_eq := h.finished_eq }⟩

/-- Before the end of the text the same token is read, and the same is seen behind it. -/
theorem moves {next : Step} (h : SameView first second) (hrest : first.cursor.rest ≠ [])
    (hstep : first.step = .ok next) :
    ∃ other, second.step = .ok other ∧ other.token = next.token ∧
      SameView next.lexer other.lexer := by
  obtain ⟨choice, stack, hfirst, hsecond, hview⟩ := h.exists_carryOut hrest
  obtain rfl := Except.ok.inj (hfirst.symm.trans hstep)
  exact ⟨_, hsecond, by simp [carryOut, h.offset_eq], hview⟩

/-- The same tokens are read. -/
theorem reads {last : Lexer} {tokens : List Token} (h : SameView first second)
    (hreads : Reads first tokens last) :
    ∃ other, Reads second tokens other ∧ SameView last other := by
  induction hreads with
  | refl => exact ⟨second, .refl, h⟩
  | @snoc tokens last next before hrest hstep ih =>
      obtain ⟨other, hother, hview⟩ := ih
      obtain ⟨again, hagain, htoken, hbehind⟩ := hview.moves hrest hstep
      rw [← hview.rest_eq] at hrest
      rw [← htoken]
      exact ⟨again.lexer, .snoc hother hrest hagain, hbehind⟩

/-- At the end of the text the same frames are left. -/
theorem stack_finish (h : SameView first second) :
    second.finish.lexer.stack = first.finish.lexer.stack := by
  unfold finish
  rw [h.finished_eq]
  split
  · exact h.stack_eq
  · exact congrArg withoutModifiers h.stack_eq

end SameView

end Lexer

end ElixirLexer
