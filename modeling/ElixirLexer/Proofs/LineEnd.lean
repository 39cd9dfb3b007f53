import ElixirLexer.Proofs.Reading

/-!
# Looking ahead to the end of a line

A text that ends with a line break may be followed by anything: no rule looks beyond the line break,
unless a token goes beyond it.  Here this is said of each function that looks ahead (`EndsLine`),
one after the other.  Two things are left out because they do look further: the search for the line
that closes a heredoc, and the body of a group, which only stays the same if it does not reach the
end of the text (`bodyReach_append`).

A carriage return at the end of the text is a line break of its own only if no newline follows, so
`EndsLine` looks at what follows.
-/

namespace ElixirLexer

/-- The text ends with a line break that is complete in front of `tail`. -/
def EndsLine (text tail : List Char) : Prop :=
  text.getLast? = some '\n' ∨ text.getLast? = some '\r' ∧ tail.head? ≠ some '\n'

namespace EndsLine

variable {text tail rest : List Char} {c : Char}

theorem ne_nil (h : EndsLine text tail) : text ≠ [] := by
  rintro rfl
  simp [EndsLine] at h

/-- What is left of the text ends with the same line break. -/
theorem of_append (front : List Char) (h : EndsLine (front ++ rest) tail) (hrest : rest ≠ []) :
    EndsLine rest tail := by
  rwa [EndsLine, List.getLast?_append, Option.or_of_isSome (by simpa using hrest)] at h

theorem append_left (front : List Char) (h : EndsLine text tail) :
    EndsLine (front ++ text) tail := by
  rwa [EndsLine, List.getLast?_append, Option.or_of_isSome (by simpa using h.ne_nil)]

/-- What follows must not complete the line break. -/
theorem of_nil (h : EndsLine text []) (htail : tail.head? ≠ some '\n') : EndsLine text tail :=
  h.imp_right fun hreturn => ⟨hreturn.1, htail⟩

theorem drop {count : Nat} (h : EndsLine text tail) (hlt : count < text.length) :
    EndsLine (text.drop count) tail := by
  refine of_append (text.take count) (by rwa [List.take_append_drop]) ?_
  rw [ne_eq, List.drop_eq_nil_iff]
  omega

/-- The first character ends the line, or the line goes on behind it. -/
theorem cons_cases (h : EndsLine (c :: rest) tail) :
    rest = [] ∧ isLineBreak c ∨ EndsLine rest tail := by
  by_cases hrest : rest = []
  · subst hrest
    refine .inl ⟨rfl, ?_⟩
    rcases h with h | ⟨h, -⟩ <;> obtain rfl := Option.some.inj h <;> rfl
  · exact .inr (h.of_append [c] hrest)

/-- The line goes on behind a character that is no line break. -/
theorem of_cons (h : EndsLine (c :: rest) tail) (hc : isLineBreak c = false) :
    EndsLine rest tail := by
  rcases h.cons_cases with ⟨-, hbreak⟩ | hrest
  · simp [hc] at hbreak
  · exact hrest

/-- A test that both line breaks fail. -/
theorem failsAtBreaks {p : Char → Bool} (hnewline : p '\n' = false) (hreturn : p '\r' = false) :
    ∀ c, isLineBreak c → p c = false := by
  intro c hc
  simp only [isLineBreak, Bool.or_eq_true, beq_iff_eq] at hc
  rcases hc with rfl | rfl
  · exact hnewline
  · exact hreturn

/-- The line goes on behind a character that passes a test which line breaks fail. -/
theorem of_cons_of_pass {p : Char → Bool} (h : EndsLine (c :: rest) tail)
    (hp : ∀ c, isLineBreak c → p c = false) (hc : p c) : EndsLine rest tail := by
  refine h.of_cons (Bool.eq_false_iff.mpr fun hbreak => ?_)
  simp [hp c hbreak] at hc

/-! ## Runs of characters -/

section

variable {p : Char → Bool} (hp : ∀ c, isLineBreak c → p c = false)

include hp

/-- A run of characters that are no line breaks ends in front of the line break. -/
theorem takeWhile_append (h : EndsLine text tail) :
    (text ++ tail).takeWhile p = text.takeWhile p := by
  induction text with
  | nil => exact absurd rfl h.ne_nil
  | cons c rest ih =>
      rw [List.cons_append, List.takeWhile_cons, List.takeWhile_cons]
      split
      · next hc =>
          rcases h.cons_cases with ⟨-, hbreak⟩ | hrest
          · simp [hp c hbreak] at hc
          · rw [ih hrest]
      · rfl

theorem length_takeWhile_lt (h : EndsLine text tail) :
    (text.takeWhile p).length < text.length := by
  induction text with
  | nil => exact absurd rfl h.ne_nil
  | cons c rest ih =>
      rw [List.takeWhile_cons]
      split
      · next hc =>
          rcases h.cons_cases with ⟨-, hbreak⟩ | hrest
          · simp [hp c hbreak] at hc
          · simpa using ih hrest
      · simp

/-- What follows the run is still in front of the line break. -/
theorem dropWhile_append (h : EndsLine text tail) :
    (text ++ tail).dropWhile p = text.dropWhile p ++ tail ∧ EndsLine (text.dropWhile p) tail := by
  induction text with
  | nil => exact absurd rfl h.ne_nil
  | cons c rest ih =>
      rw [List.cons_append, List.dropWhile_cons, List.dropWhile_cons]
      split
      · next hc =>
          rcases h.cons_cases with ⟨-, hbreak⟩ | hrest
          · simp [hp c hbreak] at hc
          · exact ih hrest
      · exact ⟨rfl, h⟩

end

theorem drop_append {count : Nat} (hlt : count < text.length) :
    (text ++ tail).drop count = text.drop count ++ tail :=
  List.drop_append_of_le_length (Nat.le_of_lt hlt)

theorem head?_append (h : EndsLine text tail) : (text ++ tail).head? = text.head? := by
  rw [List.head?_append, Option.or_of_isSome (by simpa using h.ne_nil)]

/-- Whether a text begins with characters that are no line breaks is settled before the line
break. -/
theorem isPrefixOf_append {pattern : List Char} (h : EndsLine text tail)
    (hpattern : ∀ c ∈ pattern, isLineBreak c = false) :
    pattern.isPrefixOf (text ++ tail) = pattern.isPrefixOf text := by
  induction pattern generalizing text with
  | nil => simp
  | cons d pattern ih =>
      obtain ⟨hd, hpattern⟩ := List.forall_mem_cons.mp hpattern
      cases text with
      | nil => exact absurd rfl h.ne_nil
      | cons c rest =>
          rw [List.cons_append, List.isPrefixOf_cons_cons, List.isPrefixOf_cons_cons]
          by_cases hdc : d = c
          · subst hdc
            rw [ih (h.of_cons hd) hpattern]
          · rw [beq_eq_false_iff_ne.mpr hdc, Bool.false_and, Bool.false_and]

theorem beginsWithMarker_append {quote : Char} (h : EndsLine text tail)
    (hquote : isLineBreak quote = false) :
    beginsWithMarker quote (text ++ tail) = beginsWithMarker quote text :=
  h.isPrefixOf_append (by simpa using hquote)

theorem beginsWithInterpolation_append (h : EndsLine text tail) :
    beginsWithInterpolation (text ++ tail) = beginsWithInterpolation text :=
  h.isPrefixOf_append (List.forall_mem_cons.mpr ⟨rfl, List.forall_mem_singleton.mpr rfl⟩)

/-! ## Line breaks -/

theorem lineBreakLength_append (h : EndsLine text tail) :
    lineBreakLength (text ++ tail) = lineBreakLength text := by
  cases text with
  | nil => exact absurd rfl h.ne_nil
  | cons c rest =>
      cases rest with
      | cons d behind => rfl
      | nil =>
          rcases h with h | ⟨h, htail⟩ <;> obtain rfl := Option.some.inj h
          · rfl
          · simp [lineBreakLength, htail]

/-- A text that is nothing but a line break ends with it. -/
theorem of_lineBreakLength (htext : text ≠ []) (h : lineBreakLength text = text.length) :
    EndsLine text [] := by
  match text with
  | [] => exact absurd rfl htext
  | [c] =>
      by_cases hnewline : c = '\n'
      · exact .inl (by rw [hnewline]; rfl)
      · by_cases hreturn : c = '\r'
        · exact .inr ⟨by rw [hreturn]; rfl, by simp⟩
        · simp [lineBreakLength, hnewline, hreturn] at h
  | c :: d :: later =>
      simp only [lineBreakLength, List.head?_cons, List.length_cons, Option.some.injEq] at h
      -- Two characters are one line break only if they are a carriage return and a newline.
      split at h
      · omega
      · split at h
        · split at h
          · next hd =>
              obtain rfl : later = [] := List.length_eq_zero_iff.mp (by omega)
              exact .inl (by rw [hd]; rfl)
          · omega
        · omega

/-! ## Words, operators and character literals -/

theorem nameRestLength_append (h : EndsLine text tail) :
    nameRestLength (text ++ tail) = nameRestLength text := by
  rw [nameRestLength, nameRestLength, h.takeWhile_append (failsAtBreaks (by decide) (by decide))]

theorem wordRestLength_append (h : EndsLine text tail) :
    wordRestLength (text ++ tail) = wordRestLength text := by
  obtain ⟨hdrop, hends⟩ := h.dropWhile_append (p := isIdentifierRest)
    (failsAtBreaks (by decide) (by decide))
  rw [wordRestLength, wordRestLength, h.nameRestLength_append, hdrop, hends.head?_append]

theorem wordLength?_append (h : EndsLine text tail) :
    wordLength? (text ++ tail) = wordLength? text := by
  cases text with
  | nil => exact absurd rfl h.ne_nil
  | cons c rest =>
      simp only [List.cons_append, wordLength?]
      split
      · next hc =>
          have hrest := h.of_cons_of_pass (failsAtBreaks (by decide) (by decide)) hc
          rw [hrest.wordRestLength_append]
      · rfl

theorem operatorLength?_append (h : EndsLine text tail) :
    operatorLength? (text ++ tail) = operatorLength? text := by
  have hall : operators.all fun operator => operator.all fun c => !isLineBreak c := by decide
  have hplain : ∀ operator ∈ operators, ∀ c ∈ operator, isLineBreak c = false := by
    simpa only [List.all_eq_true, Bool.not_eq_true'] using hall
  have hfilter : operators.filter (fun operator => operator.isPrefixOf (text ++ tail)) =
      operators.filter fun operator => operator.isPrefixOf text :=
    List.filter_congr fun operator hmem => h.isPrefixOf_append (hplain operator hmem)
  rw [operatorLength?, operatorLength?, hfilter]

/-- A character literal looks only at whether there is a second and a third character. -/
theorem charTokenLength?_append (h : EndsLine text tail) :
    charTokenLength? (text ++ tail) = charTokenLength? text := by
  cases text with
  | nil => exact absurd rfl h.ne_nil
  | cons mark rest =>
      by_cases hmark : mark = '?'
      · subst hmark
        have hrest := h.of_cons (by decide)
        cases rest with
        | nil => exact absurd rfl hrest.ne_nil
        | cons c behind =>
            by_cases hc : c = '\\'
            · subst hc
              have hbehind := hrest.of_cons (by decide)
              have hne := hbehind.ne_nil
              simp [charTokenLength?, hne]
            · simp [charTokenLength?, hc]
      · have hnone : ∀ others, charTokenLength? (mark :: others) = none := by
          intro others
          cases others <;> simp [charTokenLength?, hmark]
        rw [List.cons_append, hnone, hnone]

/-! ## Numbers -/

theorem digitsLength_append (h : EndsLine text tail) :
    Number.digitsLength (text ++ tail) = Number.digitsLength text := by
  rw [Number.digitsLength, Number.digitsLength,
    h.takeWhile_append (failsAtBreaks (by decide) (by decide))]

/-- The digits end in front of the line break. -/
theorem digitsLength_lt (h : EndsLine text tail) : Number.digitsLength text < text.length :=
  h.length_takeWhile_lt (failsAtBreaks (by decide) (by decide))

theorem beginsWithDigit_append (h : EndsLine text tail) :
    Number.beginsWithDigit (text ++ tail) = Number.beginsWithDigit text := by
  rw [Number.beginsWithDigit, Number.beginsWithDigit, h.head?_append]

/-- Neither the letter of a base nor a digit in it is a line break. -/
theorem isLineBreak_of_baseDigit? {letter : Char} {isDigit : Char → Bool}
    (h : Number.baseDigit? letter = some isDigit) :
    isLineBreak letter = false ∧ ∀ c, isLineBreak c → isDigit c = false := by
  unfold Number.baseDigit? at h
  split at h
  · next hletter =>
      obtain rfl := Option.some.inj h
      exact ⟨by rw [hletter]; decide, failsAtBreaks (by decide) (by decide)⟩
  · split at h
    · next hletter =>
        obtain rfl := Option.some.inj h
        exact ⟨by rw [hletter]; decide, failsAtBreaks (by decide) (by decide)⟩
    · split at h
      · next hletter =>
          obtain rfl := Option.some.inj h
          exact ⟨by rw [hletter]; decide, failsAtBreaks (by decide) (by decide)⟩
      · simp at h

theorem basedLength?_append (h : EndsLine text tail) :
    Number.basedLength? (text ++ tail) = Number.basedLength? text := by
  cases text with
  | nil => exact absurd rfl h.ne_nil
  | cons zero rest =>
      by_cases hzero : zero = '0'
      · subst hzero
        have hrest := h.of_cons (by decide)
        cases rest with
        | nil => exact absurd rfl hrest.ne_nil
        | cons letter behind =>
            simp only [List.cons_append, Number.basedLength?, if_true]
            cases hbase : Number.baseDigit? letter with
            | none => rfl
            | some isDigit =>
                obtain ⟨hletter, hdigit⟩ := isLineBreak_of_baseDigit? hbase
                have hbehind := hrest.of_cons hletter
                simp only [hbehind.head?_append, hbehind.takeWhile_append hdigit]
      · have hnone : ∀ others, Number.basedLength? (zero :: others) = none := by
          intro others
          cases others <;> simp [Number.basedLength?, hzero]
        rw [List.cons_append, hnone, hnone]

theorem signLength_append (h : EndsLine text tail) :
    Number.signLength (text ++ tail) = Number.signLength text := by
  rw [Number.signLength, Number.signLength, h.head?_append]

/-- The sign of an exponent stands in front of the line break. -/
theorem signLength_lt (h : EndsLine text tail) : Number.signLength text < text.length := by
  cases text with
  | nil => exact absurd rfl h.ne_nil
  | cons c rest =>
      by_cases hc : (c == '+' || c == '-') = true
      · have hrest := h.of_cons_of_pass (p := fun c => c == '+' || c == '-')
          (failsAtBreaks (by decide) (by decide)) hc
        have hlength := List.length_pos_iff.mpr hrest.ne_nil
        simp only [Number.signLength, List.head?_cons, Option.any_some, hc, if_true,
          List.length_cons]
        omega
      · simp [Number.signLength, hc]

theorem exponentLength_append (h : EndsLine text tail) :
    Number.exponentLength (text ++ tail) = Number.exponentLength text := by
  cases text with
  | nil => exact absurd rfl h.ne_nil
  | cons letter rest =>
      by_cases hletter : letter = 'e' ∨ letter = 'E'
      · have hrest : EndsLine rest tail := by
          refine h.of_cons ?_
          rcases hletter with rfl | rfl <;> decide
        have hlt := hrest.signLength_lt
        have hdigits := hrest.drop hlt
        simp only [List.cons_append, Number.exponentLength, hrest.signLength_append,
          drop_append hlt, hdigits.beginsWithDigit_append, hdigits.digitsLength_append]
      · simp [Number.exponentLength, hletter]

theorem fractionLength_append (h : EndsLine text tail) :
    Number.fractionLength (text ++ tail) = Number.fractionLength text := by
  cases text with
  | nil => exact absurd rfl h.ne_nil
  | cons point rest =>
      by_cases hpoint : point = '.'
      · subst hpoint
        have hrest := h.of_cons (by decide)
        have hlt := hrest.digitsLength_lt
        simp only [List.cons_append, Number.fractionLength, hrest.beginsWithDigit_append,
          hrest.digitsLength_append, drop_append hlt, (hrest.drop hlt).exponentLength_append]
      · simp [Number.fractionLength, hpoint]

theorem numberLength?_append (h : EndsLine text tail) :
    Number.length? (text ++ tail) = Number.length? text := by
  have hlt := h.digitsLength_lt
  simp only [Number.length?, Number.decimalLength, h.beginsWithDigit_append, h.basedLength?_append,
    h.digitsLength_append, drop_append hlt, (h.drop hlt).fractionLength_append]

/-! ## Heredocs -/

theorem terminatorIndent?_append (quote : Char) (h : EndsLine text tail)
    (hquote : isLineBreak quote = false) :
    terminatorIndent? quote (text ++ tail) = terminatorIndent? quote text := by
  have hindent := failsAtBreaks (p := isIndent) (by decide) (by decide)
  obtain ⟨hdrop, hends⟩ := h.dropWhile_append hindent
  rw [terminatorIndent?, terminatorIndent?, hdrop, hends.beginsWithMarker_append hquote,
    indentWidth, indentWidth, h.takeWhile_append hindent]

/-- The marker that closes a heredoc stands in front of the line break. -/
theorem terminatorIndent?_lt {quote : Char} {width : Nat} (h : EndsLine text tail)
    (hquote : isLineBreak quote = false) (hwidth : terminatorIndent? quote text = some width) :
    width + 3 < text.length := by
  obtain ⟨rfl, behind, htext⟩ := eq_of_terminatorIndent? hwidth
  have hlength := congrArg List.length htext
  rw [htext] at h
  have hmarker := h.of_append _ (List.cons_ne_nil _ _)
  have hbehind := ((hmarker.of_cons hquote).of_cons hquote).of_cons hquote
  have hpos := List.length_pos_iff.mpr hbehind.ne_nil
  simp only [List.length_append, List.length_cons] at hlength
  unfold indentWidth
  omega

theorem lineReach_append (interpolating : Bool) (h : EndsLine text tail) :
    lineReach interpolating (text ++ tail) = lineReach interpolating text := by
  fun_induction lineReach interpolating text with
  | case1 => exact absurd rfl h.ne_nil
  | case2 c rest hbreak =>
      rw [List.cons_append, lineReach.eq_def]
      simp [hbreak]
  | case3 hbreak => exact absurd rfl (h.of_cons (by decide)).ne_nil
  | case4 d behind hd hbreak =>
      rw [List.cons_append, lineReach.eq_def]
      simp [hd, hbreak]
  | case5 d behind hd hbreak ih =>
      have hbehind := (h.of_cons (by decide)).of_cons (by simpa using hd)
      rw [List.cons_append, lineReach.eq_def]
      simp [hd, hbreak, ih hbehind]
  | case6 c rest hbreak hc hhead =>
      -- The line goes on behind `c`, so the brace that may follow it is in the text.
      have hrest := h.of_cons (by simpa using hbreak)
      rw [List.cons_append, lineReach.eq_def]
      simp [hrest.head?_append, hhead]
  | case7 c rest hbreak hc hhead ih =>
      have hrest := h.of_cons (by simpa using hbreak)
      rw [List.cons_append, lineReach.eq_def]
      simp [hrest.head?_append, ih hrest, hc, hbreak, hhead]

end EndsLine

/-- The body of a group that ends within the text ends there whatever follows. -/
theorem bodyReach_append {group : Group} {depth : Nat} {text : List Char} (tail : List Char)
    (h : (bodyReach group depth text).length < text.length) :
    bodyReach group depth (text ++ tail) = bodyReach group depth text := by
  have hhead {rest : List Char} {count : Nat} (hlt : count < rest.length) :
      (rest ++ tail).head? = rest.head? := by
    rw [List.head?_append,
      Option.or_of_isSome (by simpa using List.ne_nil_of_length_pos (by omega))]
  fun_induction bodyReach group depth text with
  | case1 => simp at h
  | case2 => simp at h
  | case3 depth d behind ih =>
      rw [List.cons_append, List.cons_append, bodyReach.eq_def]
      simp [ih (by simpa using h)]
  | case4 depth c rest hc hinterpolation =>
      obtain ⟨behind, rfl⟩ := List.head?_eq_some_iff.mp hinterpolation.2.2
      rw [List.cons_append, bodyReach.eq_def]
      simp [hinterpolation]
  | case5 rest hc hinterpolation =>
      rw [List.cons_append, bodyReach.eq_def]
      simp [hc]
  | case6 depth rest hdepth hc hinterpolation ih =>
      have hlt : (bodyReach group (depth - 1) rest).length < rest.length := by simpa using h
      rw [List.cons_append, bodyReach.eq_def]
      dsimp only
      rw [if_neg hc, hhead hlt, if_neg hinterpolation, if_pos rfl, if_neg hdepth, ih hlt]
  | case7 depth c rest hc hinterpolation hcloser hopener ih =>
      have hlt : (bodyReach group (depth + 1) rest).length < rest.length := by simpa using h
      rw [List.cons_append, bodyReach.eq_def]
      dsimp only
      rw [if_neg hc, hhead hlt, if_neg hinterpolation, if_neg hcloser, if_pos hopener, ih hlt]
  | case8 depth c rest hc hinterpolation hcloser hopener ih =>
      have hlt : (bodyReach group depth rest).length < rest.length := by simpa using h
      rw [List.cons_append, bodyReach.eq_def]
      dsimp only
      rw [if_neg hc, hhead hlt, if_neg hinterpolation, if_neg hcloser, if_neg hopener, ih hlt]

end ElixirLexer
