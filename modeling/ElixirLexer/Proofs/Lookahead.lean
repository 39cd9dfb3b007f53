import ElixirLexer.Proofs.Reading

/-!
# Looking for the end of a heredoc

The indentation of a heredoc is found by a scan of the text behind its opening line.  The scan can
be taken up again at every place that the body is read to: it passes over line breaks, over the text
of lines, and over the start of an interpolation in the same way as the rules do
(`closingIndent_lineBreak`, `closingIndent_line`, `closingIndent_interpolation`).  What is inside an
interpolation it passes over if its braces match (`closingIndent_inside`).  Nothing is said about
interpolations whose braces do not match: there the scan loses its way.
-/

namespace ElixirLexer

/-- Whether the braces of a text match, when `depth` braces are open in front of it. -/
def bracesMatch : Nat → List Char → Bool
  | depth, [] => depth == 0
  | depth, c :: rest =>
      if c = '{' then bracesMatch (depth + 1) rest
      else if c = '}' then depth != 0 && bracesMatch (depth - 1) rest
      else bracesMatch depth rest

section

variable {quote : Char} {interpolating lineStart : Bool} {depth : Nat}

/-- A line break is one character, or a carriage return and a newline. -/
theorem lineBreakLength_cases {c : Char} (hbreak : isLineBreak c) (rest : List Char) :
    (lineBreakLength (c :: rest) = 1 ∧ ¬ (c = '\r' ∧ rest.head? = some '\n')) ∨
      (lineBreakLength (c :: rest) = 2 ∧ c = '\r' ∧ rest.head? = some '\n') := by
  have hc : c = '\n' ∨ c = '\r' := by simpa [isLineBreak] using hbreak
  rcases hc with rfl | rfl
  · exact .inl ⟨rfl, by simp⟩
  · by_cases hhead : rest.head? = some '\n'
    · exact .inr ⟨by simp [lineBreakLength, hhead], rfl, hhead⟩
    · exact .inl ⟨by simp [lineBreakLength, hhead], by simp [hhead]⟩

/-- Where no line closes the heredoc the scan goes on. -/
theorem terminator_eq_none {here : Bool} {text : List Char}
    (h : (here && (terminatorIndent? quote text).isSome) = false) :
    (if here then terminatorIndent? quote text else none) = none := by
  cases here with
  | false => rfl
  | true => simpa using h

/-- A line break starts a line wherever it stands, and a carriage return shares it with the newline
behind it. -/
theorem closingIndent_break {c : Char} {rest : List Char} (hbreak : isLineBreak c)
    (hopen : (lineStart && depth == 0 && (terminatorIndent? quote (c :: rest)).isSome) = false) :
    closingIndent quote interpolating depth lineStart (c :: rest) =
      closingIndent quote interpolating depth true
        (rest.drop (lineBreakLength (c :: rest) - 1)) := by
  conv => lhs; unfold closingIndent
  rw [terminator_eq_none hopen, hbreak]
  cases rest with
  | nil => simp [closingIndent_nil]
  | cons d behind =>
      rcases lineBreakLength_cases hbreak (d :: behind) with ⟨hone, hfeed⟩ | ⟨htwo, rfl, hhead⟩
      · have hpair : ¬ (c = '\r' ∧ d = '\n') := by simpa using hfeed
        simp [hpair, hone]
      · have hd : d = '\n' := by simpa using hhead
        rw [htwo]
        simp [hd]

/-! ## Inside an interpolation -/

theorem closingIndent_lineStart (later : Bool) (text : List Char) :
    closingIndent quote interpolating (depth + 1) lineStart text =
      closingIndent quote interpolating (depth + 1) later text := by
  cases text with
  | nil => rw [closingIndent_nil, closingIndent_nil]
  | cons c rest =>
      unfold closingIndent
      simp

/-- Inside an interpolation only braces count. -/
theorem closingIndent_cons (c : Char) (rest : List Char) :
    closingIndent quote interpolating (depth + 1) lineStart (c :: rest) =
      if c = '{' then closingIndent quote interpolating (depth + 2) false rest
      else if c = '}' then closingIndent quote interpolating depth false rest
      else closingIndent quote interpolating (depth + 1) false rest := by
  by_cases hbreak : isLineBreak c = true
  · have hopen : c ≠ '{' := by
      rintro rfl
      exact absurd hbreak (by decide)
    have hclose : c ≠ '}' := by
      rintro rfl
      exact absurd hbreak (by decide)
    rw [if_neg hopen, if_neg hclose, closingIndent_break hbreak (by simp)]
    rcases lineBreakLength_cases hbreak rest with ⟨hone, -⟩ | ⟨htwo, rfl, hhead⟩
    · rw [hone]
      exact closingIndent_lineStart false rest
    · obtain ⟨behind, rfl⟩ := List.head?_eq_some_iff.mp hhead
      rw [htwo, closingIndent_break (c := '\n') (by decide) (by simp)]
      rfl
  · conv => lhs; unfold closingIndent
    simp [hbreak]

/-- The scan comes out of an interpolation with matching braces where the interpolation ends. -/
theorem closingIndent_inside {inside : List Char} (tail : List Char)
    (h : bracesMatch depth inside) :
    closingIndent quote interpolating (depth + 1) lineStart (inside ++ '}' :: tail) =
      closingIndent quote interpolating 0 false tail := by
  induction inside generalizing depth lineStart with
  | nil =>
      obtain rfl : depth = 0 := by simpa [bracesMatch] using h
      rw [List.nil_append, closingIndent_cons]
      simp
  | cons c rest ih =>
      rw [List.cons_append, closingIndent_cons]
      unfold bracesMatch at h
      split at h
      · next hopen =>
          rw [if_pos hopen]
          exact ih h
      · next hopen =>
          rw [if_neg hopen]
          split at h
          · next hclose =>
              rw [if_pos hclose]
              rw [Bool.and_eq_true] at h
              obtain ⟨outer, rfl⟩ := Nat.exists_eq_succ_of_ne_zero (by simpa using h.1)
              exact ih h.2
          · next hclose =>
              rw [if_neg hclose]
              exact ih h

/-! ## Outside interpolations -/

/-- The scan stops at the line that closes the heredoc. -/
theorem closingIndent_terminator {text : List Char} {width : Nat}
    (h : terminatorIndent? quote text = some width) :
    closingIndent quote interpolating 0 true text = width := by
  cases text with
  | nil => simp [terminatorIndent?, beginsWithMarker] at h
  | cons c rest =>
      unfold closingIndent
      simp [h]

/-- Where no line closes the heredoc, it does not matter whether a line starts. -/
theorem closingIndent_of_open {text : List Char}
    (h : (lineStart && (terminatorIndent? quote text).isSome) = false) :
    closingIndent quote interpolating 0 lineStart text =
      closingIndent quote interpolating 0 false text := by
  cases text with
  | nil => rw [closingIndent_nil, closingIndent_nil]
  | cons c rest =>
      have hopen : ((lineStart && (0 : Nat) == 0) &&
          (terminatorIndent? quote (c :: rest)).isSome) = false := by
        simpa using h
      unfold closingIndent
      rw [terminator_eq_none hopen]
      simp

theorem closingIndent_lineBreak {text : List Char} (hpos : 0 < lineBreakLength text)
    (h : (lineStart && (terminatorIndent? quote text).isSome) = false) :
    closingIndent quote interpolating 0 lineStart text =
      closingIndent quote interpolating 0 true (text.drop (lineBreakLength text)) := by
  cases text with
  | nil => simp [lineBreakLength] at hpos
  | cons c rest =>
      have hbreak := (lineBreakLength_pos_iff c rest).mp hpos
      obtain ⟨count, hcount⟩ := Nat.exists_eq_succ_of_ne_zero (Nat.ne_of_gt hpos)
      rw [closingIndent_break hbreak (by simpa using h), hcount]
      rfl

theorem closingIndent_interpolation (tail : List Char)
    (h : (lineStart && (terminatorIndent? quote ('#' :: '{' :: tail)).isSome) = false) :
    closingIndent quote true 0 lineStart ('#' :: '{' :: tail) =
      closingIndent quote true 1 false tail := by
  rw [closingIndent_of_open h]
  conv => lhs; unfold closingIndent
  simp [isLineBreak]

/-- A character of a line that neither escapes the next one nor begins an interpolation. -/
theorem closingIndent_char {c : Char} {rest : List Char} (hbreak : ¬ isLineBreak c)
    (hescape : c ≠ '\\')
    (hinterpolation : ¬ (interpolating ∧ c = '#' ∧ rest.head? = some '{')) :
    closingIndent quote interpolating 0 false (c :: rest) =
      closingIndent quote interpolating 0 false rest := by
  conv => lhs; unfold closingIndent
  cases rest with
  | nil => simp [hbreak, hescape, closingIndent_nil]
  | cons d behind =>
      by_cases hhash : interpolating ∧ c = '#'
      · have hd : d ≠ '{' := by
          intro hd
          exact hinterpolation ⟨hhash.1, hhash.2, by rw [hd, List.head?_cons]⟩
        simp [hhash, hd, isLineBreak]
      · simp [hbreak, hescape, hhash]

/-- A backslash takes the next character of its line with it. -/
theorem closingIndent_escape {d : Char} {behind : List Char} :
    closingIndent quote interpolating 0 false ('\\' :: d :: behind) =
      if isLineBreak d then closingIndent quote interpolating 0 false (d :: behind)
      else closingIndent quote interpolating 0 false behind := by
  conv => lhs; unfold closingIndent
  simp [isLineBreak]

/-- The scan passes over the text of a line as the rule for such text does. -/
theorem closingIndent_lineReach (text : List Char) :
    closingIndent quote interpolating 0 false text =
      closingIndent quote interpolating 0 false (text.drop (lineReach interpolating text)) := by
  fun_induction lineReach interpolating text with
  | case1 => rfl
  | case2 => rfl
  | case3 hbreak => simp [closingIndent, isLineBreak]
  | case4 d behind hd hbreak =>
      rw [closingIndent_escape, if_pos hd]
      rfl
  | case5 d behind hd hbreak ih =>
      rw [closingIndent_escape, if_neg hd]
      exact ih
  | case6 => rfl
  | case7 c rest hbreak hescape hinterpolation ih =>
      rw [closingIndent_char hbreak hescape hinterpolation]
      exact ih

theorem closingIndent_line {text : List Char}
    (h : (lineStart && (terminatorIndent? quote text).isSome) = false) :
    closingIndent quote interpolating 0 lineStart text =
      closingIndent quote interpolating 0 false (text.drop (lineReach interpolating text)) := by
  rw [closingIndent_of_open h]
  exact closingIndent_lineReach text

end

/-! ## Lines -/

/-- No letter ends a line. -/
theorem isLineBreak_of_isAlpha {letter : Char} (h : letter.isAlpha) :
    isLineBreak letter = false := by
  cases hbreak : isLineBreak letter with
  | false => rfl
  | true =>
      have hletter : letter = '\n' ∨ letter = '\r' := by simpa [isLineBreak] using hbreak
      rcases hletter with rfl | rfl <;> exact absurd h (by decide)

/-- The text behind the line at the head. -/
def behindLine (text : List Char) : List Char :=
  let rest := text.dropWhile fun c => !isLineBreak c
  rest.drop (lineBreakLength rest)

/-- Reading on within a line does not change what is behind it. -/
theorem behindLine_drop {text : List Char} {count : Nat}
    (h : ∀ c ∈ text.take count, isLineBreak c = false) :
    behindLine (text.drop count) = behindLine text := by
  induction count generalizing text with
  | zero => rfl
  | succ count ih =>
      cases text with
      | nil => rfl
      | cons c rest =>
          rw [List.take_succ_cons, List.forall_mem_cons] at h
          rw [List.drop_succ_cons, ih h.2]
          simp [behindLine, h.1]

/-- At its break a line is over. -/
theorem behindLine_of_lineBreak {text : List Char} (h : 0 < lineBreakLength text) :
    behindLine text = text.drop (lineBreakLength text) := by
  cases text with
  | nil => simp [lineBreakLength] at h
  | cons c rest =>
      have hbreak := (lineBreakLength_pos_iff c rest).mp h
      simp [behindLine, hbreak]

/-- Whether a line starts at an offset: at the start of the text, or just behind a newline or a
carriage return. -/
def startsLine (text : List Char) (offset : Nat) : Bool :=
  (text.take offset).getLast?.all isLineBreak

theorem Cursor.atLineStart_eq (cursor : Cursor) :
    cursor.atLineStart = startsLine cursor.text cursor.offset := by
  obtain ⟨before, rest⟩ := cursor
  have htake : (before.reverse ++ rest).take before.length = before.reverse := by
    simp
  rw [startsLine, Cursor.text, Cursor.offset, htake, List.getLast?_reverse]
  cases before with
  | nil => rfl
  | cons c behind => rfl

/-- Whether a line starts behind some characters is seen from the last of them. -/
theorem startsLine_add {text : List Char} {offset count : Nat} (front : List Char) (c : Char)
    (h : (text.drop offset).take count = front ++ [c]) :
    startsLine text (offset + count) = isLineBreak c := by
  rw [startsLine, List.take_add, h, ← List.append_assoc, List.getLast?_concat]
  rfl

theorem startsLine_lineBreak {text : List Char} {offset : Nat}
    (h : 0 < lineBreakLength (text.drop offset)) :
    startsLine text (offset + lineBreakLength (text.drop offset)) = true := by
  cases hrest : text.drop offset with
  | nil => simp [hrest, lineBreakLength] at h
  | cons c rest =>
      rw [hrest] at h
      have hbreak := (lineBreakLength_pos_iff c rest).mp h
      rcases lineBreakLength_cases hbreak rest with ⟨hone, -⟩ | ⟨htwo, rfl, hhead⟩
      · rw [hone, startsLine_add [] c (by simp [hrest])]
        exact hbreak
      · obtain ⟨behind, rfl⟩ := List.head?_eq_some_iff.mp hhead
        rw [htwo, startsLine_add ['\r'] '\n' (by simp [hrest])]
        rfl

/-- The text of a line holds no line break. -/
theorem isLineBreak_of_mem_line (interpolating : Bool) (text : List Char) :
    ∀ c ∈ text.take (lineReach interpolating text), isLineBreak c = false := by
  fun_induction lineReach interpolating text <;> simp_all

theorem startsLine_line {text : List Char} {offset : Nat} {interpolating : Bool}
    (h : 0 < lineReach interpolating (text.drop offset)) :
    startsLine text (offset + lineReach interpolating (text.drop offset)) = false := by
  have hle := lineReach_le_length interpolating (text.drop offset)
  have hmem := isLineBreak_of_mem_line interpolating (text.drop offset)
  rcases List.eq_nil_or_concat
      ((text.drop offset).take (lineReach interpolating (text.drop offset))) with
    hnil | ⟨front, c, hline⟩
  · have hlength := congrArg List.length hnil
    rw [List.length_take, List.length_nil] at hlength
    omega
  · rw [List.concat_eq_append] at hline
    rw [startsLine_add front c hline]
    exact hmem c (by simp [hline])

/-- Taking off at most `count` blanks. -/
theorem indentWidth_take_min (text : List Char) (length count : Nat) :
    indentWidth (text.take (min length count)) = min (indentWidth (text.take length)) count := by
  induction text generalizing length count with
  | nil => simp [indentWidth]
  | cons c rest ih =>
      cases length with
      | zero => simp [indentWidth]
      | succ length =>
          cases count with
          | zero => simp [indentWidth]
          | succ count =>
              have hrest := ih length count
              simp only [indentWidth] at hrest ⊢
              rw [Nat.succ_min_succ, List.take_succ_cons, List.take_succ_cons]
              cases hc : isIndent c with
              | false => simp [hc]
              | true =>
                  simp only [List.takeWhile_cons, hc, if_true, List.length_cons, hrest]
                  omega

end ElixirLexer
