import ElixirLexer.Proofs.Escapes
import ElixirLexer.Proofs.LineEnd
import ElixirLexer.Proofs.Lookahead

/-!
# Lines

A text is cut into lines behind its line breaks, where a carriage return and the newline behind it
are one break.  The rules for heredocs never see a line as a whole; they look at the text ahead,
whatever its length.  What they find there is settled within the first line of the text, unless an
interpolation begins in it: whether the line closes a heredoc, how far its text reaches, and what
the search for the closing line does on its way to the next line.
-/

namespace ElixirLexer

/-- A line and the break that ends it, which only the last line of a text lacks. -/
structure Line where
  text : List Char
  ending : List Char
  deriving DecidableEq

/-- The lines of a text.  Behind the last break there is one more line, which may be empty. -/
def splitLines : List Char → List Line
  | [] => [⟨[], []⟩]
  | '\r' :: '\n' :: rest => ⟨[], ['\r', '\n']⟩ :: splitLines rest
  | c :: rest =>
      if isLineBreak c then ⟨[], [c]⟩ :: splitLines rest
      else (splitLines rest).modifyHead fun line => ⟨c :: line.text, line.ending⟩

namespace Line

/-- The number of characters of a line, its break included. -/
def length (line : Line) : Nat :=
  line.text.length + line.ending.length

/-- Whether a line closes a heredoc: three quotes stand behind its spaces and tabs, and anything may
follow them. -/
def closes (quote : Char) (line : Line) : Bool :=
  beginsWithMarker quote (line.text.dropWhile isIndent)

/-- An interpolation would begin in the line: a `#` that is not escaped stands in front of a
brace. -/
def IsInterrupted (line : Line) : Prop :=
  ∃ i, (bare false line.text)[i]? = some (some '#') ∧ line.text[i + 1]? = some '{'

section

variable {c d : Char} {rest behind ending : List Char}

/-- What is behind an escape is interrupted wherever it stands. -/
theorem IsInterrupted.escape (h : IsInterrupted ⟨behind, ending⟩) :
    IsInterrupted ⟨'\\' :: d :: behind, ending⟩ := by
  obtain ⟨i, hhash, hbrace⟩ := h
  refine ⟨i + 2, ?_, hbrace⟩
  rw [bare_escape]
  exact hhash

theorem IsInterrupted.cons (h : IsInterrupted ⟨rest, ending⟩) (hc : c ≠ '\\') :
    IsInterrupted ⟨c :: rest, ending⟩ := by
  obtain ⟨i, hhash, hbrace⟩ := h
  refine ⟨i + 1, ?_, hbrace⟩
  rw [bare_cons hc]
  exact hhash

end

end Line

/-! ## The first line of a text -/

/-- The line at the head of a text. -/
def firstLine (text : List Char) : Line :=
  let rest := text.dropWhile fun c => !isLineBreak c
  ⟨text.takeWhile fun c => !isLineBreak c, rest.take (lineBreakLength rest)⟩

/-- A text is its first line and what is behind it. -/
theorem firstLine_append (text : List Char) :
    (firstLine text).text ++ ((firstLine text).ending ++ behindLine text) = text := by
  simp [firstLine, behindLine]

theorem drop_firstLine (text : List Char) : text.drop (firstLine text).text.length =
    (firstLine text).ending ++ behindLine text := by
  conv => lhs; arg 2; rw [← firstLine_append text]
  exact List.drop_left

theorem take_firstLine (text : List Char) :
    text.take (firstLine text).text.length = (firstLine text).text := by
  conv => lhs; arg 2; rw [← firstLine_append text]
  exact List.take_left

theorem lineBreakLength_ending (text : List Char) :
    lineBreakLength ((firstLine text).ending ++ behindLine text) =
      (firstLine text).ending.length := by
  have hle := lineBreakLength_le_length (text.dropWhile fun c => !isLineBreak c)
  simp [firstLine, behindLine, hle]

theorem ending_eq_nil_iff {text : List Char} : (firstLine text).ending = [] ↔
    text.dropWhile (fun c => !isLineBreak c) = [] := by
  unfold firstLine
  cases hrest : text.dropWhile fun c => !isLineBreak c with
  | nil => simp
  | cons c rest =>
      have hbreak : isLineBreak c = true := by
        have hhead := List.head?_dropWhile_not (fun c => !isLineBreak c) text
        simpa [hrest] using hhead
      have hpos := (lineBreakLength_pos_iff c rest).mpr hbreak
      simp
      omega

/-- Behind a line that has no break there is nothing. -/
theorem behindLine_eq_nil {text : List Char} (h : (firstLine text).ending = []) :
    behindLine text = [] := by
  simp [behindLine, ending_eq_nil_iff.mp h]

/-- The lines of a text are its first line and, behind the break, the lines of what follows. -/
theorem splitLines_eq (text : List Char) : splitLines text = firstLine text ::
    if (firstLine text).ending = [] then [] else splitLines (behindLine text) := by
  fun_induction splitLines text with
  | case1 => rfl
  | case2 rest ih => simp [firstLine, behindLine, isLineBreak, lineBreakLength]
  | case3 c rest hfeed hbreak ih =>
      have hone : lineBreakLength (c :: rest) = 1 := by
        rcases lineBreakLength_cases hbreak rest with ⟨hone, -⟩ | ⟨-, rfl, hhead⟩
        · exact hone
        · obtain ⟨behind, rfl⟩ := List.head?_eq_some_iff.mp hhead
          exact absurd rfl (hfeed behind rfl)
      simp [firstLine, behindLine, hbreak, hone]
  | case4 c rest hfeed hbreak ih =>
      rw [ih]
      simp [firstLine, behindLine, hbreak]

/-! ## Looking ahead within a line -/

/-- A text that stands at the end of a line. -/
def AtLineEnd (text : List Char) : Prop :=
  text.head?.all isLineBreak

theorem atLineEnd_behind (text : List Char) :
    AtLineEnd ((firstLine text).ending ++ behindLine text) := by
  have hhead := List.head?_dropWhile_not (fun c => !isLineBreak c) text
  have hrest : (firstLine text).ending ++ behindLine text =
      text.dropWhile fun c => !isLineBreak c := by
    simp [firstLine, behindLine]
  rw [AtLineEnd, hrest]
  cases hdrop : text.dropWhile fun c => !isLineBreak c with
  | nil => rfl
  | cons c rest => simpa [hdrop] using hhead

theorem atLineEnd_of_lineBreak {text : List Char} (h : 0 < lineBreakLength text) :
    AtLineEnd text := by
  cases text with
  | nil => rfl
  | cons c rest => exact (lineBreakLength_pos_iff c rest).mp h

theorem ne_nil_of_lineBreak {text : List Char} (h : 0 < lineBreakLength text) : text ≠ [] := by
  rintro rfl
  exact absurd h (Nat.lt_irrefl 0)

theorem ne_nil_of_firstLine_text {text : List Char} (h : (firstLine text).text ≠ []) :
    text ≠ [] := by
  rintro rfl
  exact h rfl

/-- At a line break there is nothing left of the line. -/
theorem firstLine_text_of_lineBreak {text : List Char} (h : 0 < lineBreakLength text) :
    (firstLine text).text = [] := by
  cases text with
  | nil => rfl
  | cons c rest => simp [firstLine, (lineBreakLength_pos_iff c rest).mp h]

section

variable {front back : List Char} {quote : Char} {interpolating : Bool}

theorem AtLineEnd.dropWhile_append (h : AtLineEnd back) {p : Char → Bool}
    (hp : ∀ c, isLineBreak c → p c = false) (front : List Char) :
    (front ++ back).dropWhile p = front.dropWhile p ++ back ∧
      (front ++ back).takeWhile p = front.takeWhile p := by
  induction front with
  | nil =>
      cases back with
      | nil => exact ⟨rfl, rfl⟩
      | cons c rest => simp [hp c (by simpa [AtLineEnd] using h)]
  | cons c rest ih =>
      cases hc : p c with
      | false => simp [hc]
      | true => simpa [hc] using ih

/-- A marker stands within its line. -/
theorem AtLineEnd.beginsWithMarker_append (h : AtLineEnd back)
    (hquote : isLineBreak quote = false) (front : List Char) :
    beginsWithMarker quote (front ++ back) = beginsWithMarker quote front := by
  have hback : ∀ rest, back ≠ quote :: rest := by
    rintro rest rfl
    simp [AtLineEnd, hquote] at h
  rw [Bool.eq_iff_iff, beginsWithMarker_iff, beginsWithMarker_iff]
  constructor
  · rintro ⟨tail, htail⟩
    match front with
    | [] => exact absurd htail (hback _)
    | [c] => exact absurd (List.cons.inj htail).2 (hback _)
    | [c, d] => exact absurd (List.cons.inj (List.cons.inj htail).2).2 (hback _)
    | c :: d :: e :: later =>
        simp only [List.cons_append, List.cons.injEq] at htail
        obtain ⟨rfl, rfl, rfl, -⟩ := htail
        exact ⟨later, rfl⟩
  · rintro ⟨tail, rfl⟩
    exact ⟨tail ++ back, rfl⟩

/-- At the end of a line no heredoc is closed. -/
theorem AtLineEnd.terminatorIndent?_eq_none (h : AtLineEnd back)
    (hquote : isLineBreak quote = false) : terminatorIndent? quote back = none := by
  have hindent : ∀ c, isLineBreak c → isIndent c = false :=
    EndsLine.failsAtBreaks (by decide) (by decide)
  have hdrop := (h.dropWhile_append hindent []).1
  have hmarker := h.beginsWithMarker_append hquote []
  rw [List.nil_append] at hdrop hmarker
  rw [terminatorIndent?, hdrop, List.dropWhile_nil, List.nil_append, hmarker]
  rfl

/-- Whether a heredoc is closed is settled within the line. -/
theorem terminatorIndent?_eq (hquote : isLineBreak quote = false) (text : List Char) :
    terminatorIndent? quote text =
      if (firstLine text).closes quote then some (indentWidth (firstLine text).text) else none := by
  have hindent : ∀ c, isLineBreak c → isIndent c = false :=
    EndsLine.failsAtBreaks (by decide) (by decide)
  have hend := atLineEnd_behind text
  obtain ⟨hdrop, htake⟩ := hend.dropWhile_append hindent (firstLine text).text
  conv => lhs; rw [← firstLine_append text]
  rw [terminatorIndent?, hdrop, hend.beginsWithMarker_append hquote, indentWidth, htake]
  rfl

/-- At the end of a line no text is left to pass over. -/
theorem AtLineEnd.lineReach_eq_zero (h : AtLineEnd back) : lineReach interpolating back = 0 := by
  cases back with
  | nil => rfl
  | cons c rest =>
      have hbreak : isLineBreak c = true := by simpa [AtLineEnd] using h
      unfold lineReach
      exact if_pos hbreak

theorem lineReach_interpolation (tail : List Char) : lineReach true ('#' :: '{' :: tail) = 0 := by
  simp [lineReach, isLineBreak]

/-- The text of a line is passed over as a whole, unless an interpolation begins in it. -/
theorem AtLineEnd.lineReach_append (hback : AtLineEnd back)
    (hfront : ∀ c ∈ front, isLineBreak c = false)
    (hplain : interpolating → ¬ Line.IsInterrupted ⟨front, []⟩) :
    lineReach interpolating (front ++ back) = front.length := by
  fun_induction lineReach interpolating front with
  | case1 => exact hback.lineReach_eq_zero
  | case2 c rest hbreak =>
      have hplain := hfront c List.mem_cons_self
      rw [hbreak] at hplain
      simp at hplain
  | case3 =>
      cases back with
      | nil => rfl
      | cons d behind =>
          have hbreak : isLineBreak d = true := by simpa [AtLineEnd] using hback
          rw [List.singleton_append, lineReach, if_neg (by decide), if_pos rfl]
          exact if_pos hbreak
  | case4 d behind hd => simp [hfront d (by simp)] at hd
  | case5 d behind hd hbreak ih =>
      have hreach := ih (fun c hmem => hfront c (by simp [hmem]))
        (fun hinterpolating hinterrupted => hplain hinterpolating hinterrupted.escape)
      rw [List.cons_append, List.cons_append, lineReach, if_neg (by decide), if_pos rfl]
      simp [hd, hreach]
  | case6 c rest hbreak hescape hinterpolation =>
      obtain ⟨hinterpolating, rfl, hhead⟩ := hinterpolation
      obtain ⟨tail, rfl⟩ := List.head?_eq_some_iff.mp hhead
      exact absurd ⟨0, rfl, rfl⟩ (hplain hinterpolating)
  | case7 c rest hbreak hescape hinterpolation ih =>
      have hreach := ih (fun c hmem => hfront c (List.mem_cons_of_mem _ hmem))
        (fun hinterpolating hinterrupted => hplain hinterpolating (hinterrupted.cons hescape))
      -- What stands at the end of the line is no brace.
      have hopen : ¬ (interpolating ∧ c = '#' ∧ (rest ++ back).head? = some '{') := by
        rintro ⟨hinterpolating, hhash, hhead⟩
        cases rest with
        | nil =>
            replace hhead : back.head? = some '{' := hhead
            simp [AtLineEnd, hhead, isLineBreak] at hback
        | cons d behind => exact hinterpolation ⟨hinterpolating, hhash, hhead⟩
      rw [List.cons_append]
      unfold lineReach
      rw [if_neg hbreak, if_neg hescape, if_neg hopen, hreach]
      rfl

theorem lineReach_eq {text : List Char}
    (hplain : interpolating → ¬ (firstLine text).IsInterrupted) :
    lineReach interpolating text = (firstLine text).text.length := by
  conv => lhs; rw [← firstLine_append text]
  refine (atLineEnd_behind text).lineReach_append ?_ hplain
  have hall := List.all_takeWhile (p := fun c => !isLineBreak c) (l := text)
  intro c hmem
  simpa using List.all_eq_true.mp hall c hmem

end

/-! ## Lines up to the one that closes a heredoc -/

/-- The first line that closes a heredoc. -/
def closingLine? (quote : Char) (lines : List Line) : Option Line :=
  lines.find? fun line => line.closes quote

/-- The lines in front of the first that closes a heredoc, or all of them. -/
def openLines (quote : Char) (lines : List Line) : List Line :=
  lines.takeWhile fun line => !line.closes quote

/-- Width of the spaces and tabs in front of the closing quotes, or zero if there are none. -/
def closingWidth (quote : Char) (lines : List Line) : Nat :=
  match closingLine? quote lines with
  | some line => indentWidth line.text
  | none => 0

section

variable {quote : Char} {line : Line} (lines : List Line)

theorem closing_of_closes (h : line.closes quote = true) :
    closingLine? quote (line :: lines) = some line ∧ openLines quote (line :: lines) = [] ∧
      closingWidth quote (line :: lines) = indentWidth line.text := by
  simp [closingLine?, openLines, closingWidth, h]

theorem closing_of_open (h : line.closes quote = false) :
    closingLine? quote (line :: lines) = closingLine? quote lines ∧
      openLines quote (line :: lines) = line :: openLines quote lines ∧
      closingWidth quote (line :: lines) = closingWidth quote lines := by
  simp [closingLine?, openLines, closingWidth, h]

end

/-- The search for the end of a heredoc finds the first line that closes it, unless an interpolation
begins in front of that line. -/
theorem closingIndent_eq {quote : Char} (hquote : isLineBreak quote = false) {interpolating : Bool}
    {text : List Char} {lines : List Line} (hlines : splitLines text = lines)
    (hplain : interpolating → ∀ line ∈ openLines quote lines, ¬ line.IsInterrupted) :
    closingIndent quote interpolating 0 true text = closingWidth quote lines := by
  induction lines generalizing text with
  | nil =>
      rw [splitLines_eq] at hlines
      simp at hlines
  | cons line later ih =>
      rw [splitLines_eq] at hlines
      obtain ⟨rfl, hlater⟩ := List.cons.inj hlines
      have hindent := terminatorIndent?_eq hquote text
      cases hcloses : (firstLine text).closes quote with
      | true =>
          obtain ⟨-, -, hwidth⟩ := closing_of_closes later hcloses
          rw [hcloses, if_pos rfl] at hindent
          rw [closingIndent_terminator hindent, hwidth]
      | false =>
          obtain ⟨-, hopen, hwidth⟩ := closing_of_open later hcloses
          rw [hcloses, if_neg (by simp)] at hindent
          rw [hopen] at hplain
          have hreach : lineReach interpolating text = _ :=
            lineReach_eq fun hinterpolating => hplain hinterpolating _ List.mem_cons_self
          rw [hwidth, closingIndent_line (by simp [hindent]), hreach, drop_firstLine]
          by_cases hend : (firstLine text).ending = []
          · rw [if_pos hend] at hlater
            subst hlater
            rw [hend, behindLine_eq_nil hend]
            exact closingIndent_nil
          · rw [if_neg hend] at hlater
            have hlength := lineBreakLength_ending text
            have hpos := List.length_pos_iff.mpr hend
            rw [closingIndent_lineBreak (by omega) (by simp), hlength, List.drop_left]
            exact ih hlater fun hinterpolating line hmem =>
              hplain hinterpolating line (List.mem_cons_of_mem _ hmem)

end ElixirLexer
