import ElixirLexer.Proofs.FullCounters
import ElixirLexer.Proofs.RuleOrder
import ElixirLexer.Proofs.Snapshots

/-!
# Every outcome can be carried out

Wherever characters are left, in any mode and whatever its context is, what classification comes to
is safe (`outcome_isSafe`): only a mode around a sigil gives way, and a match takes at least one
character and no more than there are, asks for a transition that its mode allows and is no bad
character in the text of a literal.  Counters have their width here.  One that starts over is as
safe as any other; one that faults instead comes to no outcome where it is full (`not_settles_full`).

A safe outcome can be carried out on every stack with that mode on top, and leaves fewer characters,
or as many and fewer frames (`Outcome.IsSafe.succeeds`).  So a lexer neither faults nor comes to a
standstill in modes that it could not come to from plain code either.

This says nothing about the rules that are not selected, and nothing about the end of the text,
where no outcome is asked for.
-/

namespace ElixirLexer

/-! ## Outcomes -/

/-- Bad characters are read in code only: the text of a literal takes every character, and the
pieces around a sigil are of kinds of their own. -/
theorem Reading.isCode_of_badCharacter {cursor : Cursor} {mode : Mode} {found : Match}
    (h : Reading cursor mode found) (hkind : found.kind = .badCharacter) : mode.isCode := by
  cases h with
  | plain hmode | badCharacter hmode | heredocOpening hmode | quoteOpening hmode
  | sigilOpening hmode => exact hmode
  | @groupTerminator group =>
      exact absurd hkind group.literal.kinds_ne_badCharacter.2.2
  | @groupBody group =>
      exact absurd hkind group.literal.kinds_ne_badCharacter.2.1
  | _ => simp [Match.moving, Match.plain] at hkind

namespace Outcome

/-- What an outcome has to be at a place in a mode. -/
def IsSafe (cursor : Cursor) (mode : Mode) : Outcome → Prop
  | .giveWay => mode.isTransient
  | .emit found => found.Fits cursor.remaining ∧ found.transition.Suits mode ∧
      (found.kind = .badCharacter → mode.isCode)

/-- The number of characters that an outcome takes. -/
def length : Outcome → Nat
  | .giveWay => 0
  | .emit found => found.length

/-- What an outcome does to the stack. -/
def transition : Outcome → Transition
  | .giveWay => .pop
  | .emit found => found.transition

/-- An outcome can be carried out: the cursor moves over its characters and the stack makes its
transition.  This leaves fewer characters, or, where none are taken, fewer frames, and no initial
frame above others if there was none before. -/
def Succeeds (cursor : Cursor) (stack : Stack) (outcome : Outcome) : Prop :=
  ∃ moved next, cursor.advance outcome.length = .ok moved ∧
    stack.apply outcome.transition cursor.offset = .ok next ∧
    (moved.remaining < cursor.remaining ∨ moved = cursor ∧ next.depth < stack.depth) ∧
    ((∀ frame ∈ stack.above, frame.mode ≠ .initial) →
      ∀ frame ∈ next.above, frame.mode ≠ .initial)

variable {cursor : Cursor} {stack : Stack} {outcome : Outcome}

/-- The transition of a safe outcome is one that its mode allows. -/
theorem IsSafe.suits {mode : Mode} (h : outcome.IsSafe cursor mode) :
    outcome.transition.Suits mode := by
  cases outcome with
  | emit found => exact h.2.1
  | giveWay =>
      rintro rfl
      simp [IsSafe, Mode.isTransient] at h

/-- What is safe under the mode on top of a stack can be carried out on the stack. -/
theorem IsSafe.succeeds (h : outcome.IsSafe cursor stack.top.mode) :
    outcome.Succeeds cursor stack := by
  obtain ⟨next, happly⟩ := Stack.exists_apply cursor.offset h.suits
  have hlength : outcome.length ≤ cursor.rest.length := by
    cases outcome with
    | giveWay => exact Nat.zero_le _
    | emit found => exact Nat.le_trans h.1.length_le h.1.extent_le
  refine ⟨cursor.skip outcome.length, next, Cursor.advance_eq_skip hlength, happly, ?_,
    Stack.ne_initial_of_apply happly h.suits⟩
  cases outcome with
  | giveWay =>
      obtain ⟨frame, habove, -⟩ := Stack.exists_of_apply_pop happly
      exact .inr ⟨rfl, by simp [Stack.depth, habove]⟩
  | emit found =>
      have hpos := h.1.pos
      refine .inl ?_
      simp only [Cursor.remaining, Cursor.skip, length, List.length_drop] at hlength ⊢
      omega

/-- What can be read is safe. -/
theorem isSafe_of_reading {mode : Mode} {found : Match} (h : Reading cursor mode found)
    (hrest : cursor.rest ≠ []) : (emit found).IsSafe cursor mode :=
  ⟨h.fits hrest, h.suits, h.isCode_of_badCharacter⟩

/-- A body is safe wherever it ends in the text and whatever it leaves waiting. -/
theorem isSafe_of_body {group : Group} {reach : Reach} (hlength : reach.length ≠ 0)
    (hle : reach.length ≤ cursor.rest.length) :
    (emit (Match.moving group.literal.bodyKind reach.length
      (group.deepened reach.depth))).IsSafe cursor (.group group) := by
  refine ⟨⟨Nat.pos_of_ne_zero hlength, Nat.le_refl _, hle, Nat.zero_le _⟩, ?_, fun hkind => ?_⟩
  · simp only [Match.moving, Group.deepened]
    split <;> simp [Transition.Suits]
  · exact absurd hkind group.literal.kinds_ne_badCharacter.2.1

end Outcome

/-! ## Classification -/

/-- Without a limit on counters the outcome is safe in any mode with any context, and in the text of
a literal no character is left unmatched. -/
theorem classify_isSafe {cursor : Cursor} (hrest : cursor.rest ≠ []) (mode : Mode)
    (options : Options) :
    (classify cursor mode options).IsSafe cursor mode ∧
      (mode.id.isText → ∃ found, longest (fun rule => Rule.answer rule ⟨cursor, mode, options⟩)
        (Rule.table mode.id) = some found) := by
  constructor
  · cases hclass : classify cursor mode options with
    | giveWay => exact (givesWay_of_giveWay hclass).isTransient
    | emit found => exact Outcome.isSafe_of_reading (reading_of_emit hrest hclass) hrest
  · intro htext
    obtain ⟨rule, hmem, hanswer⟩ := exists_answer_of_isText options htext hrest
    refine Option.ne_none_iff_exists'.mp fun hnone => ?_
    exact hanswer (longest_eq_none_iff.mp hnone rule hmem)

namespace Overflow

variable {cursor : Cursor} {options : Options}

/-- Classification comes to an outcome, the outcome is safe, and it succeeds on every stack with the
mode on top.  In the text of a literal a rule is selected. -/
def Settles (overflow : Overflow) (cursor : Cursor) (mode : Mode) (options : Options) : Prop :=
  ∃ found, overflow.select ⟨cursor, mode, options⟩ (Rule.table mode.id) = .ok found ∧
    overflow.outcome cursor mode options = .ok (mode.settle found) ∧
    (mode.settle found).IsSafe cursor mode ∧
    (∀ stack : Stack, stack.top.mode = mode → (mode.settle found).Succeeds cursor stack) ∧
    (mode.id.isText → found ≠ none)

theorem settles_of_select {overflow : Overflow} {mode : Mode} {found : Option Match}
    (h : overflow.select ⟨cursor, mode, options⟩ (Rule.table mode.id) = .ok found)
    (hsafe : (mode.settle found).IsSafe cursor mode) (htext : mode.id.isText → found ≠ none) :
    overflow.Settles cursor mode options := by
  refine ⟨found, h, ?_, hsafe, ?_, htext⟩
  · rw [outcome, h]
    rfl
  · rintro stack rfl
    exact hsafe.succeeds

/-- Where the counter of the mode holds, the outcome is the one without a limit. -/
theorem settles_of_not_overflows (overflow : Overflow) {mode : Mode} (hrest : cursor.rest ≠ [])
    (h : ¬ mode.Overflows cursor.rest) : overflow.Settles cursor mode options := by
  obtain ⟨hsafe, hfound⟩ := classify_isSafe hrest mode options
  refine settles_of_select (select_eq fun rule _ => answer_eq h rule) hsafe fun htext => ?_
  obtain ⟨found, hfound⟩ := hfound htext
  rw [hfound]
  exact Option.some_ne_none found

/-- A group whose counter starts over has a body that is safe, or one of the answers that it has
anyway. -/
theorem settles_wraps_group (hrest : cursor.rest ≠ []) (group : Group) :
    wraps.Settles cursor (.group group) options := by
  obtain ⟨reach, hreach, hle, hzero⟩ := exists_reach_wraps group group.depth cursor.rest
  let scan : Scan := ⟨cursor, .group group, options⟩
  let body : Option Match :=
    if reach.length = 0 then none
    else some (Match.moving group.literal.bodyKind reach.length (group.deepened reach.depth))
  let answers (rule : Rule) : Option Match :=
    if rule = .groupBody then body else rule.answer scan
  have hanswers : ∀ rule ∈ Rule.table .group, wraps.answer scan rule = .ok (answers rule) := by
    simpa [Rule.table, answers, answer] using body_eq hreach
  have hselect : wraps.select scan (Rule.table .group) = .ok _ := select_eq hanswers
  cases hlongest : longest answers (Rule.table .group) with
  | none =>
      obtain ⟨rule, hmem, hanswer⟩ := group_answers options group hrest
      have hnone : answers rule = none := longest_eq_none_iff.mp hlongest rule hmem
      by_cases hrule : rule = .groupBody
      · subst hrule
        have hlength : reach.length = 0 := by simpa [answers, body] using hnone
        -- Without a limit there is no body here either, so another rule has an answer.
        exact absurd (groupBody_eq_none (hzero.mp hlength)) hanswer
      · exact absurd (by simpa [answers, hrule] using hnone) hanswer
  | some found =>
      rw [hlongest] at hselect
      refine settles_of_select hselect ?_ fun _ => Option.some_ne_none found
      obtain ⟨rule, hmem, hanswer⟩ := exists_answer_of_longest hlongest
      simp only [Rule.table, List.mem_cons, List.not_mem_nil, or_false] at hmem
      rcases hmem with rfl | rfl | rfl
      · obtain ⟨rfl, hinterpolating, tail, htext⟩ := interpolationStart_eq_some hanswer
        exact Outcome.isSafe_of_reading (.groupInterpolation hinterpolating htext) hrest
      · exact Outcome.isSafe_of_reading (reading_of_groupTerminator hanswer) hrest
      · have hlength : reach.length ≠ 0 := by
          intro hzero
          simp [answers, body, hzero] at hanswer
        obtain rfl : _ = found := by simpa [answers, body, hlength] using hanswer
        exact Outcome.isSafe_of_body hlength hle

/-- A brace is counted before it is taken for a brace of plain code, also if its counter starts
over. -/
theorem settles_wraps_brace {depth : Nat} (h : (Mode.interpolation depth).Overflows cursor.rest) :
    wraps.Settles cursor (.interpolation depth) options := by
  obtain ⟨hfull, hhead⟩ := h
  obtain ⟨tail, hrest⟩ := List.head?_eq_some_iff.mp hhead
  let scan : Scan := ⟨cursor, .interpolation depth, options⟩
  let brace : Match := Match.moving .openBrace 1 (.replace (.interpolation 0))
  let answers (rule : Rule) : Option Match :=
    if rule = .interpolationBrace then some brace else rule.answer scan
  have hbrace : wraps.brace scan = .ok (some brace) := by
    refine (brace_open hrest).trans ?_
    rw [next_wraps_of_le hfull]
    rfl
  have hanswers : ∀ rule ∈ Rule.table .interpolation,
      wraps.answer scan rule = .ok (answers rule) := by
    simp [Rule.table, Rule.code, answers, answer, hbrace]
  have hcode : longest answers Rule.code = some (Match.plain .openBrace 1) := by
    have hsame : longest answers Rule.code = longest (fun rule => rule.answer scan) Rule.code :=
      longest_congr fun rule hmem => if_neg fun heq => absurd (heq ▸ hmem) (by decide)
    exact hsame.trans (Rule.longest_openBrace hrest)
  have hlongest : longest answers (Rule.table .interpolation) = some brace := by
    rw [Rule.table, longest_cons, hcode]
    rfl
  have hselect : wraps.select scan (Rule.table .interpolation) = .ok _ := select_eq hanswers
  rw [hlongest] at hselect
  refine settles_of_select hselect ?_ fun _ => Option.some_ne_none brace
  refine ⟨⟨Nat.one_pos, Nat.le_refl _, ?_, Nat.zero_le _⟩, ?_, ?_⟩
  · simp [brace, Match.moving, Cursor.remaining, hrest]
  · simp [brace, Match.moving, Transition.Suits]
  · simp [brace, Match.moving]

end Overflow

end ElixirLexer
