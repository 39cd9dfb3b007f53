import ElixirLexer.Rule.Table

/-!
# How far the plain rules of code reach

Most rules of code consume what they rest on and leave the stack alone.  Each of their matches has
at least one character and stays within the text ahead, whatever the text is: a base letter without
digits, an exponent without a digit or a mark at the end of the text cannot make a match overrun.
The rules that change the stack are not treated here.
-/

namespace ElixirLexer

/-- A match of the given kind that leaves the stack alone, has at least one character and stays
within a text of the given length. -/
def Match.IsPlain (kind : Kind) (remaining : Nat) (found : Match) : Prop :=
  ∃ length, found = Match.plain kind length ∧ 0 < length ∧ length ≤ remaining

theorem Match.isPlain_of_nonempty {kind : Kind} {length remaining : Nat} {found : Match}
    (h : Match.nonempty kind length = some found) (hle : length ≤ remaining) :
    found.IsPlain kind remaining := by
  unfold Match.nonempty at h
  split at h
  · simp at h
  · next hne => exact ⟨length, (Option.some.inj h).symm, by omega, hle⟩

theorem Match.isPlain_of_map {kind : Kind} {length? : Option Nat} {remaining : Nat} {found : Match}
    (h : length?.map (Match.plain kind) = some found)
    (hbounds : ∀ length, length? = some length → 0 < length ∧ length ≤ remaining) :
    found.IsPlain kind remaining := by
  obtain ⟨length, hlength, rfl⟩ := Option.map_eq_some_iff.mp h
  exact ⟨length, rfl, hbounds length hlength⟩

/-! ## White space, line breaks and comments -/

theorem lineBreakLength_le_length (text : List Char) : lineBreakLength text ≤ text.length := by
  cases text with
  | nil => simp [lineBreakLength]
  | cons c rest =>
      simp only [lineBreakLength]
      split
      · simp
      · split
        · split
          · next hnewline =>
              obtain ⟨tail, rfl⟩ := List.head?_eq_some_iff.mp hnewline
              simp
          · simp
        · simp

theorem lineBreakLength_le_two (text : List Char) : lineBreakLength text ≤ 2 := by
  cases text with
  | nil => simp [lineBreakLength]
  | cons c rest =>
      simp only [lineBreakLength]
      split
      · omega
      · split
        · split <;> omega
        · omega

theorem lineBreakLength_pos_iff (c : Char) (rest : List Char) :
    0 < lineBreakLength (c :: rest) ↔ isLineBreak c = true := by
  by_cases hnewline : c = '\n'
  · simp [lineBreakLength, isLineBreak, hnewline]
  · by_cases hreturn : c = '\r'
    · have hlength : 0 < if rest.head? = some '\n' then 2 else 1 := by split <;> omega
      simpa [lineBreakLength, isLineBreak, hreturn] using hlength
    · simp [lineBreakLength, isLineBreak, hnewline, hreturn]

theorem lineBreakLength_eq_zero {c : Char} (h : isLineBreak c = false) (rest : List Char) :
    lineBreakLength (c :: rest) = 0 := by
  simpa [h] using lineBreakLength_pos_iff c rest

theorem Scan.isPlain_of_whitespace {scan : Scan} {found : Match}
    (h : scan.whitespace = some found) : found.IsPlain .whitespace scan.rest.length := by
  refine Match.isPlain_of_nonempty h ?_
  have hblanks (count : Nat) :
      ((scan.rest.drop count).takeWhile isBlank).length ≤ scan.rest.length - count := by
    have hle := (List.takeWhile_prefix isBlank (l := scan.rest.drop count)).length_le
    simpa using hle
  split
  · next hmark =>
      have hrest : scan.rest ≠ [] := by
        rintro hnil
        simp [Scan.hasByteOrderMark, hnil] at hmark
      have hpos := List.length_pos_iff.mpr hrest
      have := hblanks 1
      omega
  · have := hblanks 0
    omega

theorem Scan.isPlain_of_eol {scan : Scan} {found : Match} (h : scan.eol = some found) :
    found.IsPlain .eol scan.rest.length :=
  Match.isPlain_of_nonempty h (lineBreakLength_le_length scan.rest)

theorem Scan.isPlain_of_comment {scan : Scan} {found : Match} (h : scan.comment = some found) :
    found.IsPlain .comment scan.rest.length := by
  unfold Scan.comment at h
  split at h
  · simp at h
  · next c rest hrest =>
      split at h
      · obtain rfl := Option.some.inj h
        have hle := (List.takeWhile_prefix (fun d => !isLineBreak d) (l := rest)).length_le
        refine ⟨_, rfl, by omega, ?_⟩
        rw [hrest, List.length_cons]
        omega
      · simp at h

/-! ## Character literals -/

theorem charTokenLength?_bounds {text : List Char} {length : Nat}
    (h : charTokenLength? text = some length) : 0 < length ∧ length ≤ text.length := by
  unfold charTokenLength? at h
  split at h
  · next mark c rest =>
      split at h
      · simp at h
      · split at h
        · split at h
          · simp at h
          · next hrest =>
              have hpos : 0 < rest.length := by
                rw [List.length_pos_iff]
                simpa using hrest
              simp at h ⊢
              omega
        · split at h
          · simp at h
          · simp at h ⊢
            omega
  · simp at h

theorem Scan.isPlain_of_charToken {scan : Scan} {found : Match} (h : scan.charToken = some found) :
    found.IsPlain .charToken scan.rest.length :=
  Match.isPlain_of_map h fun _ => charTokenLength?_bounds

/-! ## Numbers -/

namespace Number

theorem digitsLength_le_length (text : List Char) : digitsLength text ≤ text.length :=
  (List.takeWhile_prefix isDecimalDigit).length_le

/-- A text that begins with a digit begins with a run of digits. -/
theorem digitsLength_pos {text : List Char} (h : beginsWithDigit text) : 0 < digitsLength text := by
  cases text with
  | nil => simp [beginsWithDigit] at h
  | cons c rest =>
      have hdigit : isDecimalDigit c = true := by
        have hc : c.isDigit = true := by simpa [beginsWithDigit] using h
        simp [isDecimalDigit, hc]
      simp [digitsLength, hdigit]

theorem basedLength?_bounds {text : List Char} {length : Nat}
    (h : basedLength? text = some length) : 0 < length ∧ length ≤ text.length := by
  unfold basedLength? at h
  split at h
  · next zero letter rest =>
      split at h
      · split at h
        · simp at h
        · next isDigit _ =>
            split at h
            · obtain rfl := Option.some.inj h
              have hle := (List.takeWhile_prefix isDigit (l := rest)).length_le
              simp only [List.length_cons]
              omega
            · simp at h
      · simp at h
  · simp at h

theorem exponentLength_le_length (text : List Char) : exponentLength text ≤ text.length := by
  cases text with
  | nil => simp [exponentLength]
  | cons letter rest =>
      simp only [exponentLength]
      split
      · next h =>
          have hdigits := digitsLength_le_length (rest.drop (signLength rest))
          have hpos := digitsLength_pos h.2
          simp only [List.length_drop, List.length_cons] at hdigits ⊢
          omega
      · omega

theorem fractionLength_le_length (text : List Char) : fractionLength text ≤ text.length := by
  cases text with
  | nil => simp [fractionLength]
  | cons point rest =>
      simp only [fractionLength]
      split
      · have hdigits := digitsLength_le_length rest
        have hexponent := exponentLength_le_length (rest.drop (digitsLength rest))
        simp only [List.length_drop, List.length_cons] at hexponent ⊢
        omega
      · omega

theorem decimalLength_le_length (text : List Char) : decimalLength text ≤ text.length := by
  have hdigits := digitsLength_le_length text
  have hfraction := fractionLength_le_length (text.drop (digitsLength text))
  simp only [List.length_drop] at hfraction
  unfold decimalLength
  omega

theorem length?_bounds {text : List Char} {length : Nat} (h : length? text = some length) :
    0 < length ∧ length ≤ text.length := by
  unfold length? at h
  split at h
  · next hdigit =>
      obtain rfl := Option.some.inj h
      cases hbased : basedLength? text with
      | none =>
          have hpos := digitsLength_pos hdigit
          have hle := decimalLength_le_length text
          simp only [Option.getD_none]
          exact ⟨by unfold decimalLength; omega, hle⟩
      | some based => exact basedLength?_bounds hbased
  · simp at h

end Number

theorem Scan.isPlain_of_number {scan : Scan} {found : Match} (h : scan.number = some found) :
    found.IsPlain .number scan.rest.length :=
  Match.isPlain_of_map h fun _ => Number.length?_bounds

/-! ## Words -/

theorem wordRestLength_le_length (text : List Char) : wordRestLength text ≤ text.length := by
  have hsplit := congrArg List.length
    (List.takeWhile_append_dropWhile (p := isIdentifierRest) (l := text))
  rw [List.length_append] at hsplit
  unfold wordRestLength nameRestLength
  split
  · next hmark =>
      have hpos : 0 < (text.dropWhile isIdentifierRest).length := by
        rw [List.length_pos_iff]
        rintro hnil
        simp [hnil] at hmark
      omega
  · omega

theorem wordLength?_bounds {text : List Char} {length : Nat} (h : wordLength? text = some length) :
    0 < length ∧ length ≤ text.length := by
  cases text with
  | nil => simp [wordLength?] at h
  | cons c rest =>
      simp only [wordLength?] at h
      split at h
      · obtain rfl := Option.some.inj h
        have hle := wordRestLength_le_length rest
        rw [List.length_cons]
        omega
      · simp at h

theorem Scan.isPlain_of_identifier {scan : Scan} {found : Match}
    (h : scan.identifier = some found) : found.IsPlain .identifier scan.rest.length :=
  Match.isPlain_of_map h fun _ => wordLength?_bounds

theorem Scan.isPlain_of_keyword {scan : Scan} {found : Match} (h : scan.keyword = some found) :
    found.IsPlain .keyword scan.rest.length := by
  unfold Scan.keyword at h
  split at h
  · simp at h
  · next length hlength =>
      split at h
      · exact ⟨length, (Option.some.inj h).symm, wordLength?_bounds hlength⟩
      · simp at h

theorem Scan.isPlain_of_aliasName {scan : Scan} {found : Match} (h : scan.aliasName = some found) :
    found.IsPlain .aliasName scan.rest.length := by
  unfold Scan.aliasName at h
  split at h
  · simp at h
  · next c rest hrest =>
      split at h
      · obtain rfl := Option.some.inj h
        have hle := (List.takeWhile_prefix isIdentifierRest (l := rest)).length_le
        refine ⟨_, rfl, by omega, ?_⟩
        rw [hrest, List.length_cons, nameRestLength]
        omega
      · simp at h

theorem Scan.isPlain_of_atom {scan : Scan} {found : Match} (h : scan.atom = some found) :
    found.IsPlain .atom scan.rest.length := by
  unfold Scan.atom at h
  split at h
  · next colon c rest hrest =>
      split at h
      · obtain rfl := Option.some.inj h
        have hle := wordRestLength_le_length rest
        refine ⟨_, rfl, by omega, ?_⟩
        rw [hrest, List.length_cons, List.length_cons]
        omega
      · simp at h
  · simp at h

/-! ## Operators and punctuation -/

theorem operatorLength?_bounds {text : List Char} {length : Nat}
    (h : operatorLength? text = some length) : 0 < length ∧ length ≤ text.length := by
  have hmem := List.max?_mem h
  obtain ⟨operator, hoperator, rfl⟩ := List.mem_map.mp hmem
  obtain ⟨hlisted, hprefix⟩ := List.mem_filter.mp hoperator
  have hpositive : ∀ operator ∈ operators, 0 < operator.length := by decide
  exact ⟨hpositive operator hlisted, (List.isPrefixOf_iff_prefix.mp hprefix).length_le⟩

theorem Scan.isPlain_of_operator {scan : Scan} {found : Match} (h : scan.operator = some found) :
    found.IsPlain .operator scan.rest.length :=
  Match.isPlain_of_map h fun _ => operatorLength?_bounds

/-- A punctuation mark is one character, and its kind tells which. -/
theorem Scan.isPlain_of_punctuation {scan : Scan} {found : Match}
    (h : scan.punctuation = some found) :
    ∃ c kind, (c, kind) ∈ punctuationKinds ∧ scan.rest.head? = some c ∧
      found = Match.plain kind 1 := by
  unfold Scan.punctuation at h
  split at h
  · simp at h
  · next c rest hrest =>
      obtain ⟨kind, hkind, rfl⟩ := Option.map_eq_some_iff.mp h
      obtain ⟨before, after, hsplit, -⟩ := List.lookup_eq_some_iff.mp hkind
      exact ⟨c, kind, by simp [hsplit], by simp [hrest], rfl⟩

end ElixirLexer
