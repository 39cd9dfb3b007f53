import ElixirLexer.Proofs.StackShape

/-!
# Well-nested stacks

The shape of the stack, read off frame by frame from its bottom: which frames are literals and
which are interpolations, which are found on top only, in which order they were opened, and what
the text is where they were.  `pull_wellNested` says that the frames are well nested after any
number of steps from plain code.
-/

namespace ElixirLexer

/-- The modes that are found on top of the stack only. -/
def Mode.isTopmost : Mode → Bool
  | .sigilName | .sigilDelimiter _ | .heredocOpen _ | .sigilModifiers => true
  | _ => false

/-- The frames of a stack, listed from the bottom, when the lexer stands at an offset of a text. -/
structure WellNested (text : List Char) (offset : Nat) (frames : List Frame) : Prop where
  bottom : frames.head? = some ⟨.initial, 0⟩
  /-- No other frame is the initial one. -/
  eq_zero_of_initial : ∀ i frame, frames[i]? = some frame → frame.mode = .initial → i = 0
  isLiteral_of_odd : ∀ i frame, frames[i]? = some frame → i % 2 = 1 → frame.mode.isLiteral
  /-- Interpolated code lies on a literal that interpolates. -/
  isInterpolation_of_even : ∀ i below frame, frames[i]? = some below →
    frames[i + 1]? = some frame → (i + 1) % 2 = 0 →
      frame.mode.isInterpolation ∧ below.mode.isInterpolating
  topmost : ∀ i frame, frames[i]? = some frame → frame.mode.isTopmost → i + 1 = frames.length
  openedAt_lt : ∀ i j below frame, 0 < i → i < j → frames[i]? = some below →
    frames[j]? = some frame → below.openedAt < frame.openedAt
  openedAt_lt_offset : ∀ i frame, 0 < i → frames[i]? = some frame → frame.openedAt < offset
  openedBy : ∀ i frame, 0 < i → frames[i]? = some frame →
    frame.mode.OpenedBy (text.drop frame.openedAt)

theorem getElem?_snoc_eq_some {frames : List Frame} {frame found : Frame} {i : Nat}
    (h : (frames ++ [frame])[i]? = some found) :
    frames[i]? = some found ∨ i = frames.length ∧ found = frame := by
  rw [List.getElem?_append] at h
  split at h
  · exact .inl h
  · next hge =>
      obtain ⟨hlt, heq⟩ := List.getElem?_eq_some_iff.mp h
      simp only [List.length_singleton] at hlt
      refine .inr ⟨by omega, ?_⟩
      simpa using heq.symm

namespace WellNested

variable {text : List Char} {offset : Nat} {frames : List Frame} {frame lower : Frame}

theorem initial : WellNested text offset [⟨.initial, 0⟩] := by
  have hzero (i : Nat) (frame : Frame) (h : [(⟨.initial, 0⟩ : Frame)][i]? = some frame) :
      i = 0 ∧ frame = ⟨.initial, 0⟩ := by
    obtain ⟨hlt, heq⟩ := List.getElem?_eq_some_iff.mp h
    simp only [List.length_singleton] at hlt
    exact ⟨by omega, by simpa using heq.symm⟩
  exact {
    bottom := rfl
    eq_zero_of_initial := by
      intro i frame hframe hmode
      exact (hzero i frame hframe).1
    isLiteral_of_odd := by
      intro i frame hframe hodd
      have hi := (hzero i frame hframe).1
      omega
    isInterpolation_of_even := by
      intro i below frame hbelow hframe heven
      have hi := (hzero (i + 1) frame hframe).1
      omega
    topmost := by
      intro i frame hframe hmode
      rw [(hzero i frame hframe).2] at hmode
      simp [Mode.isTopmost] at hmode
    openedAt_lt := by
      intro i j below frame hi hj hbelow hframe
      have hzero := (hzero j frame hframe).1
      omega
    openedAt_lt_offset := by
      intro i frame hi hframe
      have hzero := (hzero i frame hframe).1
      omega
    openedBy := by
      intro i frame hi hframe
      have hzero := (hzero i frame hframe).1
      omega }

/-- The frame on which another lies is numbered by its mode. -/
theorem even_of_isCode (h : WellNested text offset (frames ++ [lower]))
    (hcode : lower.mode.isCode) :
    frames.length % 2 = 0 := by
  rcases Nat.mod_two_eq_zero_or_one frames.length with heven | hodd
  · exact heven
  · have hliteral := h.isLiteral_of_odd _ lower List.getElem?_concat_length hodd
    cases hmode : lower.mode <;> simp [hmode, Mode.isCode, Mode.isLiteral] at hcode hliteral

theorem odd_of_isInterpolating (h : WellNested text offset (frames ++ [lower]))
    (hinterpolating : lower.mode.isInterpolating) : frames.length % 2 = 1 := by
  rcases Nat.mod_two_eq_zero_or_one frames.length with heven | hodd
  · -- At an even place lies the initial frame or an interpolation, and neither interpolates.
    exfalso
    rcases List.eq_nil_or_concat frames with rfl | ⟨front, below, rfl⟩
    · obtain rfl : lower = ⟨.initial, 0⟩ := by simpa using h.bottom
      simp [Mode.isInterpolating] at hinterpolating
    · rw [List.concat_eq_append] at h heven
      rw [List.length_append, List.length_singleton] at heven
      have hbelow : (front ++ [below] ++ [lower])[front.length]? = some below := by
        simp
      have hlower : (front ++ [below] ++ [lower])[front.length + 1]? = some lower := by
        simp
      obtain ⟨hinterpolation, -⟩ :=
        h.isInterpolation_of_even _ below lower hbelow hlower heven
      cases hmode : lower.mode <;>
        simp [hmode, Mode.isInterpolation, Mode.isInterpolating] at hinterpolation hinterpolating
  · exact hodd

/-- A frame is laid on top. -/
theorem push (h : WellNested text frame.openedAt (frames ++ [lower]))
    (hopened : frame.mode.OpenedBy (text.drop frame.openedAt))
    (hon : frame.mode.isLiteral ∧ lower.mode.isCode ∨
      frame.mode.isInterpolation ∧ lower.mode.isInterpolating) (hlt : frame.openedAt < offset) :
    WellNested text offset (frames ++ [lower] ++ [frame]) := by
  have hlast : (frames ++ [lower])[frames.length]? = some lower := List.getElem?_concat_length
  have hlength : (frames ++ [lower]).length = frames.length + 1 := by simp
  -- Each part holds of the old frames by `h`, and is checked once more for the new one.
  exact {
    bottom := by
      rw [List.head?_append, h.bottom]
      rfl
    eq_zero_of_initial := by
      intro i found hfound hmode
      rcases getElem?_snoc_eq_some hfound with hold | ⟨-, rfl⟩
      · exact h.eq_zero_of_initial i found hold hmode
      · rw [hmode] at hopened
        exact hopened.elim
    isLiteral_of_odd := by
      intro i found hfound hodd
      rcases getElem?_snoc_eq_some hfound with hold | ⟨hi, rfl⟩
      · exact h.isLiteral_of_odd i found hold hodd
      · rcases hon with ⟨hliteral, -⟩ | ⟨-, hinterpolating⟩
        · exact hliteral
        · have hparity := h.odd_of_isInterpolating hinterpolating
          omega
    isInterpolation_of_even := by
      intro i below found hbelow hfound heven
      rcases getElem?_snoc_eq_some hfound with hold | ⟨hi, rfl⟩
      · rcases getElem?_snoc_eq_some hbelow with hbelow | ⟨hi, -⟩
        · exact h.isInterpolation_of_even i below found hbelow hold heven
        · have hbound := (List.getElem?_eq_some_iff.mp hold).1
          omega
      · obtain rfl : i = frames.length := by omega
        rcases getElem?_snoc_eq_some hbelow with hbelow | ⟨hbelow, -⟩
        · obtain rfl := Option.some.inj (hbelow.symm.trans hlast)
          rcases hon with ⟨-, hcode⟩ | hinterpolation
          · have hparity := h.even_of_isCode hcode
            omega
          · exact hinterpolation
        · omega
    topmost := by
      intro i found hfound hmode
      rcases getElem?_snoc_eq_some hfound with hold | ⟨hi, -⟩
      · have hi := h.topmost i found hold hmode
        obtain rfl : i = frames.length := by omega
        obtain rfl := Option.some.inj (hold.symm.trans hlast)
        rcases hon with ⟨-, hcode⟩ | ⟨-, hinterpolating⟩
        · cases hfound : found.mode <;> simp [hfound, Mode.isCode, Mode.isTopmost] at hcode hmode
        · cases hfound : found.mode <;>
            simp [hfound, Mode.isInterpolating, Mode.isTopmost] at hinterpolating hmode
      · simp [hi]
    openedAt_lt := by
      intro i j below found hi hj hbelow hfound
      rcases getElem?_snoc_eq_some hfound with hold | ⟨hj', rfl⟩
      · rcases getElem?_snoc_eq_some hbelow with hbelow | ⟨hi', -⟩
        · exact h.openedAt_lt i j below found hi hj hbelow hold
        · have hbound := (List.getElem?_eq_some_iff.mp hold).1
          omega
      · rcases getElem?_snoc_eq_some hbelow with hbelow | ⟨hi', -⟩
        · exact h.openedAt_lt_offset i below hi hbelow
        · omega
    openedAt_lt_offset := by
      intro i found hi hfound
      rcases getElem?_snoc_eq_some hfound with hold | ⟨-, rfl⟩
      · exact Nat.lt_trans (h.openedAt_lt_offset i found hi hold) hlt
      · exact hlt
    openedBy := by
      intro i found hi hfound
      rcases getElem?_snoc_eq_some hfound with hold | ⟨-, rfl⟩
      · exact h.openedBy i found hi hold
      · exact hopened }

end WellNested

/-- The frame in effect is the last of the frames. -/
theorem Stack.exists_frames_eq (stack : Stack) : ∃ front, stack.frames = front ++ [stack.top] := by
  obtain ⟨above, base⟩ := stack
  cases above with
  | nil => exact ⟨[], rfl⟩
  | cons frame below => exact ⟨Stack.frames ⟨below, base⟩, by simp [Stack.frames, Stack.top]⟩

theorem Frame.LiesOn.on_top {frame : Frame} {below : List Frame} {base : Nat}
    (h : frame.LiesOn below.head?) :
    frame.mode.isLiteral ∧ (Stack.top ⟨below, base⟩).mode.isCode ∨
      frame.mode.isInterpolation ∧ (Stack.top ⟨below, base⟩).mode.isInterpolating := by
  cases below with
  | nil => exact .inl ⟨h, rfl⟩
  | cons lower lowest =>
      rcases h.2 with ⟨hliteral, hinterpolation⟩ | hinterpolating
      · refine .inl ⟨hliteral, ?_⟩
        show lower.mode.isCode = true
        cases hmode : lower.mode with
        | interpolation depth => rfl
        | _ => simp [hmode, Mode.isInterpolation] at hinterpolation
      · exact .inr hinterpolating

/-- A shaped stack, seen from its bottom. -/
theorem Shaped.wellNested {text : List Char} {offset : Nat} {above : List Frame}
    (h : Shaped text offset above) : WellNested text offset (Stack.frames ⟨above, 0⟩) := by
  induction above generalizing offset with
  | nil => exact .initial
  | cons frame below ih =>
      have hbelow := ih (h.beneath (Nat.le_refl _))
      have hframes : Stack.frames ⟨frame :: below, 0⟩ = Stack.frames ⟨below, 0⟩ ++ [frame] :=
        Stack.frames_push ⟨below, 0⟩ frame
      obtain ⟨front, hfront⟩ := Stack.exists_frames_eq ⟨below, 0⟩
      rw [hfront] at hbelow hframes
      rw [hframes]
      exact hbelow.push h.nested.1 h.nested.2.1.on_top (h.stands frame rfl).openedAt_lt

/-- **The shape of the stack.**  After any number of steps from plain code the frames are well
nested: literals and interpolations take turns above the initial frame, and the text where each
frame was opened opens the construct of its mode. -/
theorem pull_wellNested (text : List Char) (options : Options) (count : Nat) :
    ∃ run, (Lexer.ofText text options).pull count = .ok run ∧
      WellNested text run.lexer.offset run.lexer.stack.frames := by
  obtain ⟨run, hrun⟩ := Lexer.exists_pull count (Lexer.ofText text options)
  have hshaped : Lexer.IsShaped text run.lexer :=
    Lexer.pull_invariant (fun _ _ h hstep => h.step hstep) (.ofText text options) hrun
  have hbase : run.lexer.stack = ⟨run.lexer.stack.above, 0⟩ := by
    rw [← hshaped.base_eq]
  refine ⟨run, hrun, ?_⟩
  rw [hbase]
  exact hshaped.shaped.wellNested

end ElixirLexer
