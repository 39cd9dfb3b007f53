import ElixirLexer.Proofs.NumberGrammar
import ElixirLexer.Proofs.OptionEffects

/-!
# The text of a token is read as that token

Where plain code emits a token that leaves the stack alone, the text of the token, taken out and
lexed on its own, gives that token again and nothing else.  What followed the token may have decided
where it ends, so this says that the end of the text decides the same.

Taking the text out can change two things for a rule: it may now reach the end where it used to
reach further, and it may find less than it needed.  `Rule.Agrees` says that neither happens at the
end of the token.  Rules are not compared elsewhere, and they may differ there: `1.` in front of a
digit is taken further than alone.  The rule of keywords is not even monotone, as `do` is a keyword
and `dot` is none; it is compared by way of the rule of identifiers, which reaches as far.
-/

namespace ElixirLexer

/-! ## Scanners that stop where their text stops -/

/-- A scanner that takes a text as the head of a longer one takes it alone, and one that takes a
whole text takes no less of a longer one. -/
structure Munches (reach : List Char → Option Nat) : Prop where
  alone : ∀ {text tail : List Char}, reach (text ++ tail) = some text.length →
    reach text = some text.length
  within : ∀ {text : List Char} (tail : List Char), reach text = some text.length →
    ∃ longer, reach (text ++ tail) = some longer ∧ text.length ≤ longer

/-- A scanner behind a character of a class. -/
def reachBehind (isFirst : Char → Bool) (reach : List Char → Option Nat) : List Char → Option Nat
  | [] => none
  | c :: rest => if isFirst c then (reach rest).map (1 + ·) else none

namespace Munches

theorem run (isMember : Char → Bool) :
    Munches fun text => some (text.takeWhile isMember).length where
  alone {text tail} h := by
    rw [List.takeWhile_append] at h
    split at h
    · next hall => rw [hall]
    · exact h
  within {text} tail h := by
    refine ⟨_, rfl, ?_⟩
    rw [List.takeWhile_append, if_pos (Option.some.inj h), List.length_append]
    omega

/-- A word whose name goes to the end of the text has no mark. -/
theorem wordRestLength_of_takeWhile {text : List Char}
    (h : (text.takeWhile isIdentifierRest).length = text.length) :
    wordRestLength text = text.length := by
  have hsplit := congrArg List.length
    (List.takeWhile_append_dropWhile (p := isIdentifierRest) (l := text))
  rw [List.length_append, h] at hsplit
  have hnone : text.dropWhile isIdentifierRest = [] := List.eq_nil_of_length_eq_zero (by omega)
  simp [wordRestLength, nameRestLength, h, hnone]

/-- A word whose name stops within the text stops there with more text behind, mark included. -/
theorem wordRestLength_append {text : List Char} (tail : List Char)
    (h : (text.takeWhile isIdentifierRest).length ≠ text.length) :
    wordRestLength (text ++ tail) = wordRestLength text := by
  have hmore : text.dropWhile isIdentifierRest ≠ [] := by
    intro hnone
    have hsplit := List.takeWhile_append_dropWhile (p := isIdentifierRest) (l := text)
    rw [hnone, List.append_nil] at hsplit
    exact h (congrArg List.length hsplit)
  obtain ⟨c, behind, hbehind⟩ := List.exists_cons_of_ne_nil hmore
  simp [wordRestLength, nameRestLength, List.takeWhile_append, List.dropWhile_append, h, hbehind]

theorem wordRest : Munches fun text => some (wordRestLength text) where
  alone {text tail} h := by
    by_cases hall : (text.takeWhile isIdentifierRest).length = text.length
    · rw [wordRestLength_of_takeWhile hall]
    · rwa [wordRestLength_append tail hall] at h
  within {text} tail h := by
    refine ⟨_, rfl, ?_⟩
    by_cases hall : (text.takeWhile isIdentifierRest).length = text.length
    · rw [wordRestLength, nameRestLength, List.takeWhile_append, if_pos hall, List.length_append]
      omega
    · rw [wordRestLength_append tail hall]
      exact Nat.le_of_eq (Option.some.inj h).symm

theorem behind (isFirst : Char → Bool) {reach : List Char → Option Nat} (h : Munches reach) :
    Munches (reachBehind isFirst reach) where
  alone {text tail} hreach := by
    cases text with
    | nil =>
        cases tail with
        | nil => simp [reachBehind] at hreach
        | cons c rest =>
            simp only [List.nil_append, reachBehind] at hreach
            split at hreach <;> simp at hreach
    | cons c rest =>
        simp only [List.cons_append, reachBehind] at hreach ⊢
        split at hreach
        · next hc =>
            obtain ⟨count, hcount, hlength⟩ := Option.map_eq_some_iff.mp hreach
            obtain rfl : count = rest.length := by
              rw [List.length_cons] at hlength
              omega
            rw [if_pos hc, h.alone hcount, Option.map_some, hlength]
        · simp at hreach
  within {text} tail hreach := by
    cases text with
    | nil => simp [reachBehind] at hreach
    | cons c rest =>
        simp only [List.cons_append, reachBehind] at hreach ⊢
        split at hreach
        · next hc =>
            obtain ⟨count, hcount, hlength⟩ := Option.map_eq_some_iff.mp hreach
            obtain rfl : count = rest.length := by
              rw [List.length_cons] at hlength
              omega
            obtain ⟨longer, hlonger, hle⟩ := h.within tail hcount
            refine ⟨1 + longer, by rw [if_pos hc, hlonger, Option.map_some], ?_⟩
            rw [List.length_cons]
            omega
        · simp at hreach

/-- A scanner for the longest word of a language. -/
theorem longestWord (language : Language Char) {reach : List Char → Option Nat}
    (hsome : ∀ {text length}, reach text = some length → IsLongestPrefix language text length)
    (hnone : ∀ {text}, reach text = none → ∀ word ∈ language, ¬ word <+: text) :
    Munches reach where
  alone {text tail} h := by
    have hword := (hsome h).take_mem
    rw [List.take_left] at hword
    cases hreach : reach text with
    | none => exact absurd (List.prefix_refl text) (hnone hreach text hword)
    | some length =>
        have hlongest := hsome hreach
        have hle := hlongest.le_length text hword (List.prefix_refl text)
        exact congrArg some (Nat.le_antisymm hlongest.length_le hle)
  within {text} tail h := by
    have hword := (hsome h).take_mem
    rw [List.take_length] at hword
    have hfront := List.prefix_append text tail
    cases hreach : reach (text ++ tail) with
    | none => exact absurd hfront (hnone hreach text hword)
    | some longer => exact ⟨longer, rfl, (hsome hreach).le_length text hword hfront⟩

theorem number : Munches Number.length? := by
  refine longestWord _ NumberGrammar.isLongestPrefix_number
    fun {text} hnone word hword hfront => ?_
  have hdigit := NumberGrammar.beginsWithDigit_of_prefix hfront
    (NumberGrammar.beginsWithDigit_of_mem_number hword)
  simp [Number.length?, hdigit] at hnone

theorem operator : Munches operatorLength? := by
  have hmem {text word : List Char} (hword : word ∈ operators) (hfront : word <+: text) :
      word.length ∈ (operators.filter fun operator => operator.isPrefixOf text).map List.length :=
    List.mem_map.mpr
      ⟨word, List.mem_filter.mpr ⟨hword, List.isPrefixOf_iff_prefix.mpr hfront⟩, rfl⟩
  refine longestWord {word | word ∈ operators} (fun {text length} h => ?_)
    fun {text} hnone word hword hfront => ?_
  · have hbounds := (operatorLength?_bounds h).2
    obtain ⟨hfound, hmax⟩ := List.max?_eq_some_iff.mp h
    obtain ⟨operator, hoperator, rfl⟩ := List.mem_map.mp hfound
    obtain ⟨hlisted, hfront⟩ := List.mem_filter.mp hoperator
    refine ⟨hbounds, ?_, fun word hword hfront => hmax _ (hmem hword hfront)⟩
    rwa [← List.prefix_iff_eq_take.mp (List.isPrefixOf_iff_prefix.mp hfront)]
  · have hempty := List.max?_eq_none_iff.mp hnone
    have hlisted := hmem hword hfront
    rw [hempty] at hlisted
    exact absurd hlisted List.not_mem_nil

theorem lineBreak : Munches fun text => some (lineBreakLength text) where
  alone {text tail} h := by
    replace h := Option.some.inj h
    match text with
    | [] => rfl
    | [c] =>
        have hbreak : isLineBreak c := by
          rw [← lineBreakLength_pos_iff c tail]
          exact Nat.lt_of_lt_of_eq Nat.one_pos h.symm
        have hpos := (lineBreakLength_pos_iff c []).mpr hbreak
        exact congrArg some (Nat.le_antisymm (lineBreakLength_le_length [c]) hpos)
    | c :: d :: rest => exact congrArg some h
  within {text} tail h := by
    replace h := Option.some.inj h
    refine ⟨_, rfl, ?_⟩
    match text with
    | [] => exact Nat.zero_le _
    | [c] =>
        have hbreak : isLineBreak c := by
          rw [← lineBreakLength_pos_iff c []]
          exact Nat.lt_of_lt_of_eq Nat.one_pos h.symm
        exact (lineBreakLength_pos_iff c tail).mpr hbreak
    | c :: d :: rest => exact Nat.le_of_eq h.symm

/-- A scanner that declines where it finds nothing. -/
theorem nonzero {length : List Char → Nat} (h : Munches fun text => some (length text)) :
    Munches fun text => if length text = 0 then none else some (length text) where
  alone {text tail} hreach := by
    split at hreach
    · simp at hreach
    · next hpos =>
        have hlength := Option.some.inj (h.alone hreach)
        rw [Option.some.inj hreach] at hpos
        rw [hlength, if_neg hpos]
  within {text} tail hreach := by
    split at hreach
    · simp at hreach
    · next hpos =>
        obtain ⟨longer, hlonger, hle⟩ := h.within tail hreach
        rw [Option.some.inj hreach] at hpos
        refine ⟨longer, ?_, hle⟩
        rw [Option.some.inj hlonger, if_neg (by omega)]

end Munches

namespace Rule

/-! ## Rules that stop where their text stops -/

/-- A rule that reaches over all of a text alone or as the head of a longer one. -/
structure Agrees (rule : Rule) (piece whole : Scan) : Prop where
  alone : ∀ {found : Match}, rule.answer whole = some found →
    found.extent = piece.rest.length → rule.answer piece = some found
  within : ∀ {found : Match}, rule.answer piece = some found →
    found.extent = piece.rest.length →
      ∃ longer, rule.answer whole = some longer ∧ piece.rest.length ≤ longer.extent

section

variable {piece whole : Scan} {tail : List Char} {rule : Rule}

theorem Agrees.of_munches {kind : Kind} {reach : List Char → Option Nat}
    (hmunches : Munches reach) (hrest : whole.rest = piece.rest ++ tail)
    (hpiece : rule.answer piece = (reach piece.rest).map (Match.plain kind))
    (hwhole : rule.answer whole = (reach whole.rest).map (Match.plain kind)) :
    rule.Agrees piece whole where
  alone {found} h hextent := by
    rw [hwhole, hrest] at h
    obtain ⟨length, hlength, rfl⟩ := Option.map_eq_some_iff.mp h
    obtain rfl : length = piece.rest.length := hextent
    rw [hpiece, hmunches.alone hlength, Option.map_some]
  within {found} h hextent := by
    rw [hpiece] at h
    obtain ⟨length, hlength, rfl⟩ := Option.map_eq_some_iff.mp h
    obtain rfl : length = piece.rest.length := hextent
    obtain ⟨longer, hlonger, hle⟩ := hmunches.within tail hlength
    exact ⟨Match.plain kind longer, by rw [hwhole, hrest, hlonger, Option.map_some], hle⟩

/-- A rule that looks at nothing behind what its answer rests on. -/
def IsSettled (rule : Rule) : Prop :=
  ∀ {scan other : Scan} {found : Match} (more : List Char), rule.answer scan = some found →
    other.rest = scan.rest.take found.extent ++ more → rule.answer other = some found

theorem Agrees.of_isSettled (hsettled : rule.IsSettled) (hrest : whole.rest = piece.rest ++ tail) :
    rule.Agrees piece whole where
  alone {found} h hextent := by
    refine hsettled [] h ?_
    rw [hrest, hextent, List.take_left, List.append_nil]
  within {found} h hextent := by
    refine ⟨found, hsettled tail h ?_, Nat.le_of_eq hextent.symm⟩
    rw [hrest, hextent, List.take_length]

theorem isSettled_punctuation : IsSettled .punctuation := by
  intro scan other found more h hrest
  obtain ⟨c, kind, -, hhead, rfl⟩ := Scan.isPlain_of_punctuation h
  obtain ⟨tail, htail⟩ := List.head?_eq_some_iff.mp hhead
  rw [htail] at hrest
  simp only [answer, Scan.punctuation, htail] at h
  simpa [answer, Scan.punctuation, hrest, Match.plain] using h

theorem isSettled_stringOpening : IsSettled .stringOpening := by
  intro scan other found more h hrest
  simp only [answer, Scan.stringOpening] at h
  split at h
  · next hhead =>
      obtain rfl := Option.some.inj h
      obtain ⟨tail, htail⟩ := List.head?_eq_some_iff.mp hhead
      rw [htail] at hrest
      simp [answer, Scan.stringOpening, hrest, Match.moving]
  · simp at h

theorem isSettled_charListOpening : IsSettled .charListOpening := by
  intro scan other found more h hrest
  simp only [answer, Scan.charListOpening] at h
  split at h
  · next hhead =>
      obtain rfl := Option.some.inj h
      obtain ⟨tail, htail⟩ := List.head?_eq_some_iff.mp hhead
      rw [htail] at hrest
      simp [answer, Scan.charListOpening, hrest, Match.moving]
  · simp at h

theorem isSettled_sigilOpening : IsSettled .sigilOpening := by
  intro scan other found more h hrest
  simp only [answer, Scan.sigilOpening] at h
  split at h
  · next tilde letter delimiter behind htext =>
      split at h
      · next hopens =>
          obtain rfl := Option.some.inj h
          rw [htext] at hrest
          simp [answer, Scan.sigilOpening, hrest, hopens]
      · simp at h
  · simp at h

theorem isSettled_heredocOpening : IsSettled .heredocOpening := by
  intro scan other found more h hrest
  simp only [answer, Scan.heredocOpening] at h
  split at h
  · simp at h
  · next quote behind htext =>
      split at h
      · simp at h
      · next literal hliteral =>
          split at h
          · next hmarker =>
              obtain rfl := Option.some.inj h
              obtain ⟨tail, htail⟩ := beginsWithMarker_iff.mp hmarker
              rw [htail] at hrest
              have hagain : beginsWithMarker quote other.rest :=
                beginsWithMarker_iff.mpr ⟨more, hrest⟩
              have hother : other.rest = quote :: quote :: quote :: more := hrest
              rw [hother] at hagain
              simp [answer, Scan.heredocOpening, hother, hliteral, hagain]
          · simp at h

theorem isSettled_charToken : IsSettled .charToken := by
  intro scan other found more h hrest
  obtain ⟨length, hlength, rfl⟩ := Option.map_eq_some_iff.mp h
  suffices hother : charTokenLength? other.rest = some length by
    simp [answer, Scan.charToken, hother]
  rw [hrest]
  unfold charTokenLength? at hlength
  split at hlength
  · next mark c rest htext =>
      rw [htext]
      by_cases hmark : mark = '?'
      · rw [if_neg (not_not_intro hmark)] at hlength
        by_cases hescape : c = '\\'
        · -- An escape takes one more character, and that is there in `scan`.
          rw [if_pos hescape] at hlength
          cases rest with
          | nil => simp at hlength
          | cons d behind =>
              obtain rfl : 3 = length := by simpa using hlength
              simp [Match.plain, charTokenLength?, hmark, hescape]
        · rw [if_neg hescape] at hlength
          split at hlength
          · simp at hlength
          · next hbreak =>
              obtain rfl := Option.some.inj hlength
              simp [Match.plain, charTokenLength?, hmark, hescape, hbreak]
      · rw [if_pos hmark] at hlength
        simp at hlength
  · simp at hlength

theorem whitespace_agrees (hrest : whole.rest = piece.rest ++ tail)
    (hmark : piece.hasByteOrderMark = whole.hasByteOrderMark) : Agrees .whitespace piece whole := by
  cases hwhole : whole.hasByteOrderMark with
  | false =>
      have hanswer (scan : Scan) (h : scan.hasByteOrderMark = false) :
          answer .whitespace scan =
            ((if (scan.rest.takeWhile isBlank).length = 0 then none
              else some (scan.rest.takeWhile isBlank).length).map (Match.plain .whitespace)) := by
        simp only [answer, Scan.whitespace, h, Match.nonempty, Bool.false_eq_true, if_false,
          List.drop_zero, Nat.zero_add]
        split <;> rfl
      exact .of_munches (Munches.run isBlank).nonzero hrest (hanswer piece (hmark.trans hwhole))
        (hanswer whole hwhole)
  | true =>
      have hanswer (scan : Scan) (h : scan.hasByteOrderMark = true) :
          answer .whitespace scan =
            (reachBehind (· == byteOrderMark)
              (fun text => some (text.takeWhile isBlank).length) scan.rest).map
              (Match.plain .whitespace) := by
        have hhead : scan.rest.head? = some byteOrderMark := by
          simp only [Scan.hasByteOrderMark, Bool.and_eq_true, beq_iff_eq] at h
          exact h.2
        obtain ⟨behind, hbehind⟩ := List.head?_eq_some_iff.mp hhead
        simp [answer, Scan.whitespace, h, Match.nonempty, hbehind, reachBehind]
      exact .of_munches (.behind _ (.run isBlank)) hrest (hanswer piece (hmark.trans hwhole))
        (hanswer whole hwhole)

theorem eol_eq (scan : Scan) :
    answer .eol scan =
      (if lineBreakLength scan.rest = 0 then none else some (lineBreakLength scan.rest)).map
        (Match.plain .eol) := by
  simp only [answer, Scan.eol, Match.nonempty]
  split <;> rfl

theorem comment_eq (scan : Scan) :
    answer .comment scan =
      (reachBehind (· == '#') (fun text => some (text.takeWhile fun d => !isLineBreak d).length)
        scan.rest).map (Match.plain .comment) := by
  cases hrest : scan.rest with
  | nil => simp [answer, Scan.comment, hrest, reachBehind]
  | cons c rest =>
      simp only [answer, Scan.comment, hrest, reachBehind, beq_iff_eq]
      split <;> rfl

theorem aliasName_eq (scan : Scan) :
    answer .aliasName scan =
      (reachBehind Unicode.isUppercase
        (fun text => some (text.takeWhile isIdentifierRest).length) scan.rest).map
        (Match.plain .aliasName) := by
  cases hrest : scan.rest with
  | nil => simp [answer, Scan.aliasName, hrest, reachBehind]
  | cons c rest =>
      simp only [answer, Scan.aliasName, hrest, reachBehind]
      split <;> rfl

theorem atom_eq (scan : Scan) :
    answer .atom scan =
      (reachBehind (· == ':') (reachBehind (fun c => isIdentifierStart c || Unicode.isUppercase c)
        fun text => some (wordRestLength text)) scan.rest).map (Match.plain .atom) := by
  match hrest : scan.rest with
  | [] => simp [answer, Scan.atom, hrest, reachBehind]
  | [c] => simp [answer, Scan.atom, hrest, reachBehind]
  | colon :: c :: rest =>
      simp only [answer, Scan.atom, hrest, reachBehind, beq_iff_eq]
      by_cases hcolon : colon = ':'
      · by_cases hc : (isIdentifierStart c || Unicode.isUppercase c) = true
        · have hlength : 2 + wordRestLength rest = 1 + (1 + wordRestLength rest) := by omega
          simp [hcolon, hc, hlength]
        · simp [hcolon, hc]
      · simp [hcolon]

theorem identifier_eq (scan : Scan) :
    answer .identifier scan =
      (reachBehind isIdentifierStart (fun text => some (wordRestLength text)) scan.rest).map
        (Match.plain .identifier) := by
  cases hrest : scan.rest with
  | nil => simp [answer, Scan.identifier, hrest, reachBehind, wordLength?]
  | cons c rest =>
      simp only [answer, Scan.identifier, hrest, reachBehind, wordLength?]
      split <;> rfl

/-- Every rule but that of keywords. -/
theorem agrees (hmem : rule ∈ code) (hkeyword : rule ≠ .keyword)
    (hrest : whole.rest = piece.rest ++ tail)
    (hmark : piece.hasByteOrderMark = whole.hasByteOrderMark) : rule.Agrees piece whole := by
  cases rule with
  | whitespace => exact whitespace_agrees hrest hmark
  | eol => exact .of_munches Munches.lineBreak.nonzero hrest (eol_eq piece) (eol_eq whole)
  | comment => exact .of_munches (.behind _ (.run _)) hrest (comment_eq piece) (comment_eq whole)
  | heredocOpening => exact .of_isSettled isSettled_heredocOpening hrest
  | stringOpening => exact .of_isSettled isSettled_stringOpening hrest
  | charListOpening => exact .of_isSettled isSettled_charListOpening hrest
  | sigilOpening => exact .of_isSettled isSettled_sigilOpening hrest
  | charToken => exact .of_isSettled isSettled_charToken hrest
  | number => exact .of_munches .number hrest rfl rfl
  | atom =>
      exact .of_munches (.behind _ (.behind _ .wordRest)) hrest (atom_eq piece) (atom_eq whole)
  | keyword => exact absurd rfl hkeyword
  | identifier =>
      exact .of_munches (.behind _ .wordRest) hrest (identifier_eq piece) (identifier_eq whole)
  | aliasName =>
      exact .of_munches (.behind _ (.run _)) hrest (aliasName_eq piece) (aliasName_eq whole)
  | operator => exact .of_munches .operator hrest rfl rfl
  | punctuation => exact .of_isSettled isSettled_punctuation hrest
  | _ => simp [code] at hmem

/-! ## The selected match -/

/-- A rule that reaches no further than the piece answers the same to the piece alone. -/
theorem Agrees.iff {found : Match} (h : rule.Agrees piece whole)
    (hmax : ∀ longer, rule.answer whole = some longer → longer.extent ≤ piece.rest.length)
    (hextent : found.extent = piece.rest.length) :
    rule.answer whole = some found ↔ rule.answer piece = some found := by
  constructor
  · intro hwhole
    exact h.alone hwhole hextent
  · intro hpiece
    obtain ⟨longer, hlonger, hle⟩ := h.within hpiece hextent
    have hsame := h.alone hlonger (Nat.le_antisymm (hmax longer hlonger) hle)
    rw [hpiece] at hsame
    rw [hlonger, hsame]

/-- A keyword is a reserved word that the rule of identifiers finds. -/
theorem keyword_eq_some_iff {scan : Scan} {found : Match} :
    answer .keyword scan = some found ↔
      ∃ length, answer .identifier scan = some (Match.plain .identifier length) ∧
        reservedWords.contains (scan.rest.take length) ∧ found = Match.plain .keyword length := by
  simp only [answer, Scan.keyword, Scan.identifier]
  cases wordLength? scan.rest with
  | none => simp
  | some length =>
      by_cases hreserved : reservedWords.contains (scan.rest.take length)
      · simp only [hreserved, if_true, Option.map_some, Option.some.injEq, Match.plain,
          Match.mk.injEq]
        constructor
        · rintro rfl
          exact ⟨length, by simp, hreserved, rfl⟩
        · rintro ⟨other, ⟨-, rfl, -⟩, -, rfl⟩
          rfl
      · simp only [hreserved, if_false, Option.map_some, Option.some.injEq, Match.plain,
          Match.mk.injEq, reduceCtorEq, false_iff]
        rintro ⟨other, ⟨-, rfl, -⟩, hother, -⟩
        exact hreserved hother

/-- Where no rule reaches further than the piece, the rules that reach as far are the same ones. -/
theorem answer_iff {found : Match} (hmem : rule ∈ code) (hrest : whole.rest = piece.rest ++ tail)
    (hmark : piece.hasByteOrderMark = whole.hasByteOrderMark)
    (hmax : ∀ other ∈ code, ∀ longer, Rule.answer other whole = some longer →
      longer.extent ≤ piece.rest.length)
    (hextent : found.extent = piece.rest.length) :
    rule.answer whole = some found ↔ rule.answer piece = some found := by
  by_cases hkeyword : rule = .keyword
  · subst hkeyword
    have hidentifier : identifier.Agrees piece whole :=
      agrees (by decide) (by decide) hrest hmark
    have hword : identifier.answer whole = some (Match.plain .identifier piece.rest.length) ↔
        identifier.answer piece = some (Match.plain .identifier piece.rest.length) :=
      hidentifier.iff (hmax .identifier (by decide)) rfl
    have htake : whole.rest.take piece.rest.length = piece.rest.take piece.rest.length := by
      rw [hrest, List.take_left, List.take_length]
    rw [keyword_eq_some_iff, keyword_eq_some_iff]
    constructor
    · rintro ⟨length, hlength, hreserved, rfl⟩
      obtain rfl : length = piece.rest.length := hextent
      exact ⟨_, hword.mp hlength, htake ▸ hreserved, rfl⟩
    · rintro ⟨length, hlength, hreserved, rfl⟩
      obtain rfl : length = piece.rest.length := hextent
      exact ⟨_, hword.mpr hlength, htake ▸ hreserved, rfl⟩
  · exact (agrees hmem hkeyword hrest hmark).iff (hmax rule hmem) hextent

end

end Rule

/-- Rules that answer the same where they reach as far as the selected match, and nowhere reach
further, select the same match. -/
theorem longest_of_iff {ρ : Type} {answer other : ρ → Option Match} {rules : List ρ} {found : Match}
    (h : longest answer rules = some found)
    (hle : ∀ rule ∈ rules, ∀ later, other rule = some later → later.extent ≤ found.extent)
    (hiff : ∀ rule ∈ rules, ∀ later : Match, later.extent = found.extent →
      (answer rule = some later ↔ other rule = some later)) :
    longest other rules = some found := by
  induction rules with
  | nil => simp at h
  | cons rule rules ih =>
      obtain ⟨hfirst, hlater⟩ := List.forall_mem_cons.mp hle
      obtain ⟨hrule, hrules⟩ := List.forall_mem_cons.mp hiff
      rw [longest_cons] at h ⊢
      by_cases hfound : answer rule = some found
      · rw [(hrule found rfl).mp hfound]
        cases hlongest : longest other rules with
        | none => rfl
        | some later =>
            obtain ⟨again, hmem, hagain⟩ := exists_answer_of_longest hlongest
            rw [Match.some_prefer_some, if_pos (hlater again hmem later hagain)]
      · have hrest : longest answer rules = some found :=
          (Match.eq_or_eq_of_prefer h).resolve_left hfound
        rw [ih hrest hlater hrules]
        cases hother : other rule with
        | none => rfl
        | some first =>
            -- A first answer that reaches as far would have been selected before too.
            have hlt : ¬ found.extent ≤ first.extent := by
              intro hle
              have hsame := (hrule first (Nat.le_antisymm (hfirst first hother) hle)).mpr hother
              rw [hrest, hsame, Match.some_prefer_some, if_pos hle] at h
              exact hfound (hsame.trans h)
            rw [Match.some_prefer_some, if_neg hlt]

section

variable {cursor : Cursor} {options : Options} {found : Match}

/-- A byte-order mark at the head of a token counts for the text of the token as it counts where the
token stands. -/
theorem hasByteOrderMark_of_emit (hrest : cursor.rest ≠ [])
    (h : classify cursor .initial options = .emit found) (hpos : 0 < found.length)
    (hkind : found.kind = .badCharacter → cursor.rest.head? ≠ some byteOrderMark) :
    Scan.hasByteOrderMark ⟨Cursor.ofText (cursor.rest.take found.length), .initial, options⟩ =
      Scan.hasByteOrderMark ⟨cursor, .initial, options⟩ := by
  have hhead : (cursor.rest.take found.length).head? = cursor.rest.head? := by
    rw [List.head?_take, if_neg (by omega)]
  by_cases hmark : cursor.rest.head? = some byteOrderMark
  · obtain ⟨tail, htail⟩ := List.head?_eq_some_iff.mp hmark
    obtain ⟨before, rest⟩ := cursor
    obtain rfl : rest = byteOrderMark :: tail := htail
    rw [classify_of_filter_canBegin filter_canBegin_byteOrderMark] at h
    cases hwhole : Scan.hasByteOrderMark ⟨⟨before, byteOrderMark :: tail⟩, .initial, options⟩ with
    | true =>
        simp only [Scan.hasByteOrderMark, Bool.and_eq_true] at hwhole
        simp [Scan.hasByteOrderMark, Scan.rest, Cursor.ofText, Cursor.offset, hwhole.1.1, hhead]
    | false =>
        -- The mark is no blank, so nothing but a bad character is left.
        have hblank : isBlank byteOrderMark = false := by decide
        have hnone : Scan.whitespace ⟨⟨before, byteOrderMark :: tail⟩, .initial, options⟩ =
            none := by
          simp [Scan.whitespace, hwhole, Scan.rest, Match.nonempty, hblank]
        rw [hnone] at h
        obtain rfl := Outcome.emit.inj h
        exact absurd rfl (hkind rfl)
  · have hother : (cursor.rest.head? == some byteOrderMark) = false := by simpa using hmark
    simp [Scan.hasByteOrderMark, Scan.rest, Cursor.ofText, hhead, hother]

/-- A match that leaves the stack alone rests on what it consumes. -/
theorem eq_plain_of_reading (hreading : Reading cursor .initial found)
    (hkind : found.kind.isPlain ∨ found.kind = .badCharacter) :
    found = Match.plain found.kind found.length := by
  cases hreading with
  | plain hmode hplain hpos hle hbrace => rfl
  | badCharacter hmode => rfl
  | @quoteOpening mode quote literal tail hmode hquote htext hsingle =>
      cases literal <;> simp [Match.moving, Literal.promoterKind, Kind.isPlain] at hkind
  | _ => simp [Match.moving, Kind.isPlain] at hkind

/-- No answer reaches beyond the text. -/
theorem extent_le_of_answer {mode : Mode} {rule : Rule} (hrest : cursor.rest ≠ [])
    (hmem : rule ∈ Rule.table mode.id) (h : rule.answer ⟨cursor, mode, options⟩ = some found) :
    found.extent ≤ cursor.rest.length := by
  cases hlongest : longest (fun rule => Rule.answer rule ⟨cursor, mode, options⟩)
      (Rule.table mode.id) with
  | none =>
      rw [longest_eq_none_iff.mp hlongest rule hmem] at h
      simp at h
  | some best =>
      exact Nat.le_trans (extent_le_of_longest hlongest hmem h)
        ((reading_of_longest hlongest).fits hrest).extent_le

/-- Taken out of its text, a token is read by the same rules: those that reach over all of it. -/
theorem answer_take_iff {length : Nat} {rule : Rule} (hle : length ≤ cursor.rest.length)
    (hmark : Scan.hasByteOrderMark ⟨Cursor.ofText (cursor.rest.take length), .initial, options⟩ =
      Scan.hasByteOrderMark ⟨cursor, .initial, options⟩)
    (hmax : ∀ other ∈ Rule.code, ∀ longer,
      Rule.answer other ⟨cursor, .initial, options⟩ = some longer → longer.extent ≤ length)
    (hmem : rule ∈ Rule.code) (hextent : found.extent = length) :
    Rule.answer rule ⟨cursor, .initial, options⟩ = some found ↔
      Rule.answer rule ⟨Cursor.ofText (cursor.rest.take length), .initial, options⟩ =
        some found := by
  have hlength : (cursor.rest.take length).length = length := by simp [hle]
  have hsplit : cursor.rest = cursor.rest.take length ++ cursor.rest.drop length :=
    (List.take_append_drop length cursor.rest).symm
  exact Rule.answer_iff hmem hsplit hmark
    (fun other hother longer hlonger => hlength.symm ▸ hmax other hother longer hlonger)
    (hextent.trans hlength.symm)

/-- A match that rests on what it consumes is selected from its own text too. -/
theorem longest_take {length : Nat} (hpos : 0 < length) (hle : length ≤ cursor.rest.length)
    (hmark : Scan.hasByteOrderMark ⟨Cursor.ofText (cursor.rest.take length), .initial, options⟩ =
      Scan.hasByteOrderMark ⟨cursor, .initial, options⟩)
    (h : longest (fun rule => Rule.answer rule ⟨cursor, .initial, options⟩) Rule.code = some found)
    (hextent : found.extent = length) :
    longest (fun rule => Rule.answer rule
      ⟨Cursor.ofText (cursor.rest.take length), .initial, options⟩) Rule.code = some found := by
  have hlength : (cursor.rest.take length).length = length := by simp [hle]
  have htext : cursor.rest.take length ≠ [] := List.ne_nil_of_length_pos (by omega)
  refine longest_of_iff h (fun rule hmem later hlater => ?_) fun rule hmem later hlater => ?_
  · have hfits : later.extent ≤ (Cursor.ofText (cursor.rest.take length)).rest.length :=
      extent_le_of_answer htext hmem hlater
    rw [show (Cursor.ofText (cursor.rest.take length)).rest = cursor.rest.take length from rfl]
      at hfits
    omega
  · exact answer_take_iff hle hmark
      (fun other hother longer hlonger => hextent ▸ extent_le_of_longest h hother hlonger) hmem
      (hlater.trans hextent)

/-- Where no rule answers, none answers to the next character alone. -/
theorem longest_take_one (hrest : cursor.rest ≠ [])
    (hmark : Scan.hasByteOrderMark ⟨Cursor.ofText (cursor.rest.take 1), .initial, options⟩ =
      Scan.hasByteOrderMark ⟨cursor, .initial, options⟩)
    (h : longest (fun rule => Rule.answer rule ⟨cursor, .initial, options⟩) Rule.code = none) :
    longest (fun rule => Rule.answer rule
      ⟨Cursor.ofText (cursor.rest.take 1), .initial, options⟩) Rule.code = none := by
  have hle : 1 ≤ cursor.rest.length := List.length_pos_iff.mpr hrest
  have hlength : (cursor.rest.take 1).length = 1 := by simp [hle]
  cases hlongest : longest (fun rule => Rule.answer rule
      ⟨Cursor.ofText (cursor.rest.take 1), .initial, options⟩) Rule.code with
  | none => rfl
  | some found =>
      have hreading : Reading (Cursor.ofText (cursor.rest.take 1)) .initial found :=
        reading_of_longest hlongest
      have hfits := hreading.fits
        (List.ne_nil_of_length_pos (Nat.lt_of_lt_of_eq Nat.one_pos hlength.symm))
      have hextent : found.extent = 1 := by
        have hpos := hfits.pos
        have hfirst := hfits.length_le
        have hlast : found.extent ≤ (cursor.rest.take 1).length := hfits.extent_le
        omega
      obtain ⟨rule, hmem, hanswer⟩ := exists_answer_of_longest hlongest
      rw [longest_eq_none_iff] at h
      have hsame := (answer_take_iff hle hmark
        (fun other hother longer hlonger => by simp [h other hother] at hlonger) hmem
        hextent).mpr hanswer
      rw [h rule hmem] at hsame
      simp at hsame

/-- The text of a token is classified as that token. -/
theorem classify_take (hrest : cursor.rest ≠ [])
    (h : classify cursor .initial options = .emit found)
    (hkind : found.kind.isPlain ∨
      found.kind = .badCharacter ∧ cursor.rest.head? ≠ some byteOrderMark) :
    classify (Cursor.ofText (cursor.rest.take found.length)) .initial options = .emit found := by
  have hreading := reading_of_emit hrest h
  have hfits := hreading.fits hrest
  have hplain := eq_plain_of_reading hreading (hkind.imp_right And.left)
  have hmark := hasByteOrderMark_of_emit hrest h hfits.pos fun hbad => by
    rcases hkind with hkind | ⟨-, hhead⟩
    · simp [hbad, Kind.isPlain] at hkind
    · exact hhead
  unfold classify at h ⊢
  simp only [Mode.id, Rule.table] at h ⊢
  split at h
  · next hlongest =>
      obtain rfl := Outcome.emit.inj h
      rw [longest_take hfits.pos (Nat.le_trans hfits.length_le hfits.extent_le) hmark hlongest
        (congrArg Match.extent hplain)]
  · next hlongest =>
      obtain rfl := Outcome.emit.inj h
      rw [show (Match.plain .badCharacter 1).length = 1 from rfl] at hmark ⊢
      rw [longest_take_one hrest hmark hlongest]
      rfl

/-- A text that is classified as one match in plain code is lexed as one token. -/
theorem tokenize_of_classify {text : List Char} {kind : Kind} (htext : text ≠ [])
    (h : classify (Cursor.ofText text) .initial options = .emit (Match.plain kind text.length)) :
    ∃ lexed, tokenize options text = .ok lexed ∧
      lexed.tokens = [⟨kind, ⟨0, text.length⟩, .initial, 0⟩] := by
  have hreads := Lexer.Reads.of_classify (Lexer.ofText text options) htext h rfl
  exact ⟨_, hreads.tokenize_eq List.drop_length, rfl⟩

/-- **The text of a token is self-delimiting.**  Where plain code emits a token that leaves the
stack alone, or a bad character other than the byte-order mark, the text of the token is classified
as that token, and lexing that text gives the one token and nothing else. -/
theorem token_text_self_delimiting (hrest : cursor.rest ≠ [])
    (h : classify cursor .initial options = .emit found)
    (hkind : found.kind.isPlain ∨
      found.kind = .badCharacter ∧ cursor.rest.head? ≠ some byteOrderMark) :
    classify (Cursor.ofText (cursor.rest.take found.length)) .initial options = .emit found ∧
      ∃ lexed, tokenize options (cursor.rest.take found.length) = .ok lexed ∧
        lexed.tokens = [⟨found.kind, ⟨0, found.length⟩, .initial, 0⟩] := by
  have hpiece := classify_take hrest h hkind
  have hreading := reading_of_emit hrest h
  have hfits := hreading.fits hrest
  have hlength : (cursor.rest.take found.length).length = found.length :=
    List.length_take_of_le (Nat.le_trans hfits.length_le hfits.extent_le)
  have hplain := eq_plain_of_reading hreading (hkind.imp_right And.left)
  refine ⟨hpiece, ?_⟩
  have hwhole : classify (Cursor.ofText (cursor.rest.take found.length)) .initial options =
      .emit (Match.plain found.kind (cursor.rest.take found.length).length) := by
    rw [hpiece, hlength, ← hplain]
  have htext : cursor.rest.take found.length ≠ [] :=
    List.ne_nil_of_length_pos (Nat.lt_of_lt_of_eq hfits.pos hlength.symm)
  obtain ⟨lexed, htokenize, htokens⟩ := tokenize_of_classify htext hwhole
  rw [hlength] at htokens
  exact ⟨lexed, htokenize, htokens⟩

end

/-- The number is cut off in front of an exponent without digits, in the middle of a text. -/
theorem token_text_self_delimiting_cut :
    let cursor : Cursor := ⟨"=x".toList, "1.0e+y".toList⟩
    cursor.rest ≠ [] ∧ classify cursor .initial {} = .emit (Match.plain .number 3) ∧
      classify (Cursor.ofText "1.0".toList) .initial {} = .emit (Match.plain .number 3) ∧
      ∃ lexed, tokenize {} "1.0".toList = .ok lexed ∧
        lexed.tokens = [⟨.number, ⟨0, 3⟩, .initial, 0⟩] := by
  intro cursor
  have hrest : cursor.rest ≠ [] := by decide
  have hnumber : classify cursor .initial {} = .emit (Match.plain .number 3) :=
    classify_number rfl (by decide)
  exact ⟨hrest, hnumber, token_text_self_delimiting hrest hnumber (.inl rfl)⟩

end ElixirLexer
