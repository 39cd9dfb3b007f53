import ElixirLexer.Classify
import ElixirLexer.Proofs.Reading
import ElixirLexer.Proofs.Selection

/-!
# Every match that is selected is a reading

The rules of each mode are taken through one by one.  The main statement is `reading_of_emit`: where
characters are left, every match that is selected is a reading of its mode.  In particular the modes
of literal bodies and heredoc lines leave no character unmatched, whatever delimiters they carry,
and a mode gives way only in front of a character that cannot continue its sigil
(`givesWay_of_giveWay`).
-/

namespace ElixirLexer

section

variable {cursor : Cursor} {mode : Mode} {options : Options} {found : Match}

/-! ## Openings -/

theorem heredocOpening_eq_some {quote : Char} {literal : Literal} {tail : List Char}
    (hquote : quotedLiteral? quote = some literal) (hrest : cursor.rest = quote :: tail)
    (hmarker : beginsWithMarker quote cursor.rest = true) :
    Scan.heredocOpening ⟨cursor, mode, options⟩ = some (Match.moving .heredocPromoter 3
      (.push (.heredocOpen (Heredoc.opened literal quote true)))) := by
  rw [hrest] at hmarker
  simp [Scan.heredocOpening, Scan.rest, hrest, hquote, hmarker]

theorem reading_of_heredocOpening (hmode : mode.isCode)
    (h : Scan.heredocOpening ⟨cursor, mode, options⟩ = some found) : Reading cursor mode found := by
  unfold Scan.heredocOpening at h
  split at h
  · simp at h
  · split at h
    · simp at h
    · next literal hquote =>
        split at h
        · next hmarker =>
            obtain rfl := Option.some.inj h
            obtain ⟨tail, htail⟩ := beginsWithMarker_iff.mp hmarker
            exact .heredocOpening hmode hquote htail
        · simp at h

/-- A single quotation mark is read only where no heredoc opens, because a heredoc reaches
further. -/
theorem reading_of_quote {quote : Char} {literal : Literal} {tail : List Char}
    (hmode : mode.isCode) (hquote : quotedLiteral? quote = some literal)
    (hrest : cursor.rest = quote :: tail)
    (hmax : ∀ later, Scan.heredocOpening ⟨cursor, mode, options⟩ = some later →
      later.extent ≤ 1) :
    Reading cursor mode (Match.moving literal.promoterKind 1
      (.push (.group (Group.quoted literal quote)))) := by
  refine .quoteOpening hmode hquote hrest ?_
  cases hmarker : beginsWithMarker quote cursor.rest with
  | false => rfl
  | true =>
      have hle := hmax _ (heredocOpening_eq_some hquote hrest hmarker)
      simp [Match.moving] at hle

theorem reading_of_sigilOpening (hmode : mode.isCode)
    (h : Scan.sigilOpening ⟨cursor, mode, options⟩ = some found) : Reading cursor mode found := by
  unfold Scan.sigilOpening at h
  split at h
  · next tilde letter delimiter tail hrest =>
      split at h
      · next hopens =>
          obtain rfl := Option.some.inj h
          obtain ⟨rfl, hletter, hdelimiter⟩ := hopens
          exact .sigilOpening hmode hrest hletter hdelimiter
      · simp at h
  · simp at h

/-! ## Code -/

theorem reading_of_isPlain {kind : Kind} (hmode : mode.isCode) (hkind : kind.isPlain)
    (hbrace : kind ≠ .openBrace ∧ kind ≠ .closeBrace)
    (h : found.IsPlain kind cursor.rest.length) : Reading cursor mode found := by
  obtain ⟨length, rfl, hpos, hle⟩ := h
  exact .plain hmode hkind hpos hle (.inr hbrace)

/-- In interpolated code the rule that counts braces answers to every brace. -/
theorem exists_interpolationBrace {depth : Nat} {c : Char} {tail : List Char}
    (hrest : cursor.rest = c :: tail) (hc : c = '{' ∨ c = '}') :
    ∃ brace, Scan.interpolationBrace ⟨cursor, .interpolation depth, options⟩ = some brace ∧
      brace.extent = 1 ∧ brace.transition ≠ .stay := by
  rcases hc with rfl | rfl
  · exact ⟨Match.moving .openBrace 1 (.replace (.interpolation (depth + 1))),
      by simp [Scan.interpolationBrace, Scan.rest, hrest], rfl, by simp [Match.moving]⟩
  · by_cases hdepth : depth = 0
    · exact ⟨Match.moving .interpolationEnd 1 .pop,
        by simp [Scan.interpolationBrace, Scan.rest, hrest, hdepth], rfl, by simp [Match.moving]⟩
    · exact ⟨Match.moving .closeBrace 1 (.replace (.interpolation (depth - 1))),
        by simp [Scan.interpolationBrace, Scan.rest, hrest, hdepth], rfl, by simp [Match.moving]⟩

theorem reading_of_interpolationBrace {depth : Nat}
    (h : Scan.interpolationBrace ⟨cursor, .interpolation depth, options⟩ = some found) :
    Reading cursor (.interpolation depth) found := by
  unfold Scan.interpolationBrace at h
  split at h
  · next d c rest hmode hrest =>
      obtain rfl : depth = d := Mode.interpolation.inj hmode
      split at h
      · next hopen =>
          obtain rfl := Option.some.inj h
          exact .openBrace (hopen ▸ hrest)
      · split at h
        · next hclose =>
            split at h
            · next hdepth =>
                obtain rfl := Option.some.inj h
                subst hdepth
                exact .interpolationEnd (hclose ▸ hrest)
            · next hdepth =>
                obtain rfl := Option.some.inj h
                obtain ⟨outer, rfl⟩ := Nat.exists_eq_succ_of_ne_zero hdepth
                exact .closeBrace (hclose ▸ hrest)
        · simp at h
  · simp at h

/-- A punctuation mark of interpolated code is no brace, because counting comes first. -/
theorem reading_of_punctuation (hmode : mode.isCode)
    (h : Scan.punctuation ⟨cursor, mode, options⟩ = some found)
    (hfirst : ∀ brace, Scan.interpolationBrace ⟨cursor, mode, options⟩ = some brace →
      found = brace ∨ brace.extent < found.extent) : Reading cursor mode found := by
  obtain ⟨c, kind, hmem, hhead, rfl⟩ := Scan.isPlain_of_punctuation h
  obtain ⟨tail, hrest⟩ := List.head?_eq_some_iff.mp hhead
  replace hrest : cursor.rest = c :: tail := hrest
  have hkinds : ∀ entry ∈ punctuationKinds, entry.2.isPlain ∧
      (entry.2 = .openBrace → entry.1 = '{') ∧ (entry.2 = .closeBrace → entry.1 = '}') := by decide
  obtain ⟨hkind, hopen, hclose⟩ := hkinds _ hmem
  refine .plain hmode hkind (by omega) (by simp [hrest]) ?_
  cases mode with
  | initial => exact .inl rfl
  | interpolation depth =>
      have hnot : ¬ (c = '{' ∨ c = '}') := by
        intro hc
        obtain ⟨brace, hanswer, hextent, hmoves⟩ := exists_interpolationBrace hrest hc
        rcases hfirst brace hanswer with heq | hlt
        · exact hmoves (by rw [← heq]; rfl)
        · simp [hextent, Match.plain] at hlt
      exact .inr ⟨fun hbrace => hnot (.inl (hopen hbrace)),
        fun hbrace => hnot (.inr (hclose hbrace))⟩
  | _ => simp [Mode.isCode] at hmode

theorem reading_of_code {rule : Rule} (hmode : mode.isCode) (hmem : rule ∈ Rule.code)
    (h : rule.answer ⟨cursor, mode, options⟩ = some found)
    (hmax : ∀ later, Scan.heredocOpening ⟨cursor, mode, options⟩ = some later →
      later.extent ≤ found.extent)
    (hfirst : ∀ brace, Scan.interpolationBrace ⟨cursor, mode, options⟩ = some brace →
      found = brace ∨ brace.extent < found.extent) : Reading cursor mode found := by
  have hplain {kind : Kind} (hkind : kind.isPlain ∧ kind ≠ .openBrace ∧ kind ≠ .closeBrace)
      (hfound : found.IsPlain kind cursor.rest.length) : Reading cursor mode found :=
    reading_of_isPlain hmode hkind.1 hkind.2 hfound
  cases rule with
  | whitespace => exact hplain (by decide) (Scan.isPlain_of_whitespace h)
  | eol => exact hplain (by decide) (Scan.isPlain_of_eol h)
  | comment => exact hplain (by decide) (Scan.isPlain_of_comment h)
  | charToken => exact hplain (by decide) (Scan.isPlain_of_charToken h)
  | number => exact hplain (by decide) (Scan.isPlain_of_number h)
  | atom => exact hplain (by decide) (Scan.isPlain_of_atom h)
  | keyword => exact hplain (by decide) (Scan.isPlain_of_keyword h)
  | identifier => exact hplain (by decide) (Scan.isPlain_of_identifier h)
  | aliasName => exact hplain (by decide) (Scan.isPlain_of_aliasName h)
  | operator => exact hplain (by decide) (Scan.isPlain_of_operator h)
  | punctuation => exact reading_of_punctuation hmode h hfirst
  | heredocOpening => exact reading_of_heredocOpening hmode h
  | sigilOpening => exact reading_of_sigilOpening hmode h
  | stringOpening =>
      replace h : Scan.stringOpening ⟨cursor, mode, options⟩ = some found := h
      unfold Scan.stringOpening at h
      split at h
      · next hhead =>
          obtain rfl := Option.some.inj h
          obtain ⟨tail, hrest⟩ := List.head?_eq_some_iff.mp hhead
          exact reading_of_quote hmode (show quotedLiteral? '"' = some .string from rfl) hrest hmax
      · simp at h
  | charListOpening =>
      replace h : Scan.charListOpening ⟨cursor, mode, options⟩ = some found := h
      unfold Scan.charListOpening at h
      split at h
      · next hhead =>
          obtain rfl := Option.some.inj h
          obtain ⟨tail, hrest⟩ := List.head?_eq_some_iff.mp hhead
          have hquote : quotedLiteral? '\'' = some .charList := rfl
          exact reading_of_quote hmode hquote hrest hmax
      · simp at h
  | _ => simp [Rule.code] at hmem

/-! ## Around sigils -/

theorem reading_of_sigilName (h : Scan.sigilName ⟨cursor, .sigilName, options⟩ = some found) :
    Reading cursor .sigilName found := by
  unfold Scan.sigilName at h
  split at h
  · simp at h
  · next letter tail hrest =>
      split at h
      · next hletter =>
          obtain rfl := Option.some.inj h
          exact .sigilName hrest hletter
      · simp at h

theorem reading_of_sigilHeredoc {interpolating : Bool}
    (h : Scan.sigilHeredoc ⟨cursor, .sigilDelimiter interpolating, options⟩ = some found) :
    Reading cursor (.sigilDelimiter interpolating) found := by
  unfold Scan.sigilHeredoc at h
  split at h
  · next i quote rest hmode hrest =>
      obtain rfl : interpolating = i := Mode.sigilDelimiter.inj hmode
      split at h
      · next hopens =>
          obtain rfl := Option.some.inj h
          obtain ⟨literal, hquote⟩ := Option.isSome_iff_exists.mp hopens.1
          obtain ⟨tail, htail⟩ := beginsWithMarker_iff.mp hopens.2
          exact .sigilHeredoc hquote htail
      · simp at h
  · simp at h

theorem sigilHeredoc_eq_some {interpolating : Bool} {quote : Char} {tail : List Char}
    (hquote : (quotedLiteral? quote).isSome) (hrest : cursor.rest = quote :: tail)
    (hmarker : beginsWithMarker quote cursor.rest = true) :
    Scan.sigilHeredoc ⟨cursor, .sigilDelimiter interpolating, options⟩ =
      some (Match.moving .heredocPromoter 3
        (.replace (.heredocOpen (Heredoc.opened .sigil quote interpolating)))) := by
  rw [hrest] at hmarker
  simp [Scan.sigilHeredoc, Scan.rest, hrest, hquote, hmarker]

theorem reading_of_sigilDelimiter {interpolating : Bool}
    (h : Scan.sigilDelimiter ⟨cursor, .sigilDelimiter interpolating, options⟩ = some found)
    (hmax : ∀ later, Scan.sigilHeredoc ⟨cursor, .sigilDelimiter interpolating, options⟩ =
      some later → later.extent ≤ found.extent) :
    Reading cursor (.sigilDelimiter interpolating) found := by
  unfold Scan.sigilDelimiter at h
  split at h
  · next i opener tail hmode hrest =>
      obtain rfl : interpolating = i := Mode.sigilDelimiter.inj hmode
      split at h
      · next hopener =>
          obtain rfl := Option.some.inj h
          refine .sigilDelimiter hrest hopener fun hquote => ?_
          cases hmarker : beginsWithMarker opener cursor.rest with
          | false => rfl
          | true =>
              have hle := hmax _ (sigilHeredoc_eq_some hquote hrest hmarker)
              simp [Match.moving] at hle
      · simp at h
  · simp at h

theorem reading_of_sigilModifier
    (h : Scan.sigilModifier ⟨cursor, .sigilModifiers, options⟩ = some found) :
    Reading cursor .sigilModifiers found := by
  unfold Scan.sigilModifier at h
  split at h
  · next hletter =>
      obtain rfl := Option.some.inj h
      rw [Option.any_eq_true] at hletter
      obtain ⟨letter, hhead, hletter⟩ := hletter
      obtain ⟨tail, hrest⟩ := List.head?_eq_some_iff.mp hhead
      exact .sigilModifier hrest hletter
  · simp at h

/-! ## Literal bodies -/

theorem reading_of_groupTerminator {group : Group}
    (h : Scan.groupTerminator ⟨cursor, .group group, options⟩ = some found) :
    Reading cursor (.group group) found := by
  unfold Scan.groupTerminator at h
  split at h
  · next g c tail hmode hrest =>
      obtain rfl : group = g := Mode.group.inj hmode
      split at h
      · next hcloses =>
          obtain rfl := Option.some.inj h
          exact .groupTerminator hcloses.1 (hcloses.2 ▸ hrest)
      · simp at h
  · simp at h

/-- A body has one answer, in which the two ways to keep the depth are one transition. -/
theorem groupBody_eq {group : Group} :
    Scan.groupBody ⟨cursor, .group group, options⟩ =
      if (bodyReach group group.depth cursor.rest).length = 0 then none
      else some (Match.moving group.literal.bodyKind (bodyReach group group.depth cursor.rest).length
        (group.deepened (bodyReach group group.depth cursor.rest).depth)) := by
  by_cases hlength : (bodyReach group group.depth cursor.rest).length = 0
  · simp [Scan.groupBody, Scan.rest, hlength]
  · by_cases hdepth : (bodyReach group group.depth cursor.rest).depth = group.depth
    · simp [Scan.groupBody, Scan.rest, hlength, hdepth, Group.deepened, Match.plain, Match.moving]
    · simp [Scan.groupBody, Scan.rest, hlength, hdepth, Group.deepened]

theorem reading_of_groupBody {group : Group}
    (h : Scan.groupBody ⟨cursor, .group group, options⟩ = some found) :
    Reading cursor (.group group) found := by
  by_cases hlength : (bodyReach group group.depth cursor.rest).length = 0
  · simp [groupBody_eq, hlength] at h
  · rw [groupBody_eq, if_neg hlength] at h
    obtain rfl := Option.some.inj h
    exact .groupBody (Nat.pos_of_ne_zero hlength)

theorem interpolationStart_eq_some
    (h : Scan.interpolationStart ⟨cursor, mode, options⟩ = some found) :
    found = Match.moving .interpolationStart 2 (.push (.interpolation 0)) ∧
      mode.isInterpolating ∧ ∃ tail, cursor.rest = '#' :: '{' :: tail := by
  unfold Scan.interpolationStart at h
  split at h
  · next hstarts =>
      exact ⟨(Option.some.inj h).symm, hstarts.1, beginsWithInterpolation_iff.mp hstarts.2⟩
  · simp at h

/-- Where a group meets no interpolation and no closer that is its own, its body has a character. -/
theorem length_bodyReach_pos {group : Group} {depth : Nat} {c : Char} {rest : List Char}
    (hinterpolation : ¬ (group.interpolating ∧ c = '#' ∧ rest.head? = some '{'))
    (hterminator : ¬ (depth = 0 ∧ c = group.closer)) :
    0 < (bodyReach group depth (c :: rest)).length := by
  unfold bodyReach
  rw [if_neg hinterpolation]
  split
  · cases rest with
    | nil => simp
    | cons d behind => simp
  · split
    · next hcloser =>
        split
        · next hdepth => exact absurd ⟨hdepth, hcloser⟩ hterminator
        · simp
    · split <;> simp

/-- A group leaves no character unmatched. -/
theorem group_answers (options : Options) (group : Group) (hrest : cursor.rest ≠ []) :
    ∃ rule ∈ Rule.table .group,
      Rule.answer rule ⟨cursor, .group group, options⟩ ≠ none := by
  cases htext : cursor.rest with
  | nil => exact absurd htext hrest
  | cons c rest =>
      by_cases hinterpolation : group.interpolating ∧ c = '#' ∧ rest.head? = some '{'
      · obtain ⟨hinterpolating, rfl, hhead⟩ := hinterpolation
        obtain ⟨tail, rfl⟩ := List.head?_eq_some_iff.mp hhead
        refine ⟨.interpolationStart, by simp [Rule.table], ?_⟩
        simp [Rule.answer, Scan.interpolationStart, Scan.rest, Mode.isInterpolating, hinterpolating,
          htext, beginsWithInterpolation]
      · by_cases hterminator : group.depth = 0 ∧ c = group.closer
        · refine ⟨.groupTerminator, by simp [Rule.table], ?_⟩
          simp [Rule.answer, Scan.groupTerminator, Scan.rest, htext, hterminator]
        · refine ⟨.groupBody, by simp [Rule.table], ?_⟩
          have hpos := length_bodyReach_pos hinterpolation hterminator
          have hne : (bodyReach group group.depth cursor.rest).length ≠ 0 := by
            rw [htext]
            omega
          simp [Rule.answer, groupBody_eq, hne]

/-! ## Heredocs -/

theorem reading_of_heredocTrailing {heredoc : Heredoc}
    (h : Scan.heredocTrailing ⟨cursor, .heredocOpen heredoc, options⟩ = some found) :
    Reading cursor (.heredocOpen heredoc) found := by
  unfold Scan.heredocTrailing Match.nonempty at h
  split at h
  · simp at h
  · next hne =>
      obtain rfl := Option.some.inj h
      exact .heredocTrailing (Nat.pos_of_ne_zero hne)

theorem heredocOpeningEol_eq {heredoc : Heredoc} :
    Scan.heredocOpeningEol ⟨cursor, .heredocOpen heredoc, options⟩ =
      if lineBreakLength cursor.rest = 0 then none
      else some (Match.moving .eol (lineBreakLength cursor.rest)
        (.replace (.heredocBody { heredoc with
          indent := closingIndent heredoc.quote heredoc.interpolating 0 true
            (cursor.rest.drop (lineBreakLength cursor.rest)) }))) := rfl

theorem reading_of_heredocOpeningEol {heredoc : Heredoc}
    (h : Scan.heredocOpeningEol ⟨cursor, .heredocOpen heredoc, options⟩ = some found) :
    Reading cursor (.heredocOpen heredoc) found := by
  rw [heredocOpeningEol_eq] at h
  split at h
  · simp at h
  · next hne =>
      obtain rfl := Option.some.inj h
      exact .heredocOpeningEol (Nat.pos_of_ne_zero hne)

/-- The line that opens a heredoc leaves no character unmatched. -/
theorem heredocOpen_answers (options : Options) (heredoc : Heredoc) (hrest : cursor.rest ≠ []) :
    ∃ rule ∈ Rule.table .heredocOpen,
      Rule.answer rule ⟨cursor, .heredocOpen heredoc, options⟩ ≠ none := by
  cases htext : cursor.rest with
  | nil => exact absurd htext hrest
  | cons c rest =>
      cases hbreak : isLineBreak c with
      | true =>
          have hpos := (lineBreakLength_pos_iff c rest).mpr hbreak
          refine ⟨.heredocOpeningEol, by simp [Rule.table], ?_⟩
          simp [Rule.answer, Scan.heredocOpeningEol, Scan.rest, htext]
          omega
      | false =>
          refine ⟨.heredocTrailing, by simp [Rule.table], ?_⟩
          simp [Rule.answer, Scan.heredocTrailing, Scan.rest, htext, hbreak, Match.nonempty]

theorem reading_of_heredocTerminator {heredoc : Heredoc}
    (h : Scan.heredocTerminator ⟨cursor, .heredocBody heredoc, options⟩ = some found) :
    Reading cursor (.heredocBody heredoc) found := by
  simp only [Scan.heredocTerminator, Scan.rest] at h
  split at h
  · next hstart =>
      split at h
      · simp at h
      · next width hwidth =>
          obtain rfl := Option.some.inj h
          exact .heredocTerminator hstart hwidth
  · simp at h

/-- Where a line closes a heredoc, its terminator reaches over at least three characters. -/
theorem exists_heredocTerminator (options : Options) {heredoc : Heredoc}
    (h : cursor.startsTerminator heredoc.quote = true) :
    ∃ terminator, Scan.heredocTerminator ⟨cursor, .heredocBody heredoc, options⟩ =
      some terminator ∧ 3 ≤ terminator.extent := by
  rw [Cursor.startsTerminator, Bool.and_eq_true] at h
  obtain ⟨width, hwidth⟩ := Option.isSome_iff_exists.mp h.2
  refine ⟨⟨.heredocTerminator, width + 3, width + 3, width,
    closing heredoc.literal (cursor.rest.drop (width + 3))⟩, ?_, by simp⟩
  simp [Scan.heredocTerminator, Scan.rest, h.1, hwidth]

theorem reading_of_heredocEol {heredoc : Heredoc}
    (h : Scan.eol ⟨cursor, .heredocBody heredoc, options⟩ = some found)
    (hopen : found.extent ≤ 2 → cursor.startsTerminator heredoc.quote = false) :
    Reading cursor (.heredocBody heredoc) found := by
  unfold Scan.eol Match.nonempty at h
  split at h
  · simp at h
  · next hne =>
      obtain rfl := Option.some.inj h
      exact .heredocEol (Nat.pos_of_ne_zero hne) (hopen (lineBreakLength_le_two _))

theorem heredocLine_eq {heredoc : Heredoc} :
    Scan.heredocLine ⟨cursor, .heredocBody heredoc, options⟩ =
      if cursor.startsTerminator heredoc.quote then none
      else if lineReach heredoc.interpolating cursor.rest = 0 then none
      else some ⟨.heredocLine, lineReach heredoc.interpolating cursor.rest,
        lineReach heredoc.interpolating cursor.rest,
        if cursor.atLineStart then
          indentWidth (cursor.rest.take
            (min (lineReach heredoc.interpolating cursor.rest) heredoc.indent))
        else 0,
        .stay⟩ := rfl

theorem reading_of_heredocLine {heredoc : Heredoc}
    (h : Scan.heredocLine ⟨cursor, .heredocBody heredoc, options⟩ = some found) :
    Reading cursor (.heredocBody heredoc) found := by
  rw [heredocLine_eq] at h
  split at h
  · simp at h
  · next hopen =>
      split at h
      · simp at h
      · next hne =>
          obtain rfl := Option.some.inj h
          exact .heredocLine (Nat.pos_of_ne_zero hne) (eq_false_of_ne_true hopen)

/-- A line that stops at its first character stops at a line break or an interpolation. -/
theorem lineReach_pos {interpolating : Bool} {c : Char} {rest : List Char}
    (hbreak : isLineBreak c = false)
    (hinterpolation : ¬ (interpolating ∧ c = '#' ∧ rest.head? = some '{')) :
    0 < lineReach interpolating (c :: rest) := by
  unfold lineReach
  rw [if_neg (by simp [hbreak]), if_neg hinterpolation]
  split
  · cases rest with
    | nil => simp
    | cons d behind =>
        simp only
        split <;> omega
  · omega

/-- The body of a heredoc leaves no character unmatched. -/
theorem heredocBody_answers (options : Options) (heredoc : Heredoc) (hrest : cursor.rest ≠ []) :
    ∃ rule ∈ Rule.table .heredocBody,
      Rule.answer rule ⟨cursor, .heredocBody heredoc, options⟩ ≠ none := by
  cases htext : cursor.rest with
  | nil => exact absurd htext hrest
  | cons c rest =>
      by_cases hbreak : isLineBreak c = true
      · have hpos := (lineBreakLength_pos_iff c rest).mpr hbreak
        refine ⟨.eol, by simp [Rule.table], ?_⟩
        simp [Rule.answer, Scan.eol, Scan.rest, Match.nonempty, htext]
        omega
      · by_cases hinterpolation : heredoc.interpolating ∧ c = '#' ∧ rest.head? = some '{'
        · obtain ⟨hinterpolating, rfl, hhead⟩ := hinterpolation
          obtain ⟨tail, rfl⟩ := List.head?_eq_some_iff.mp hhead
          refine ⟨.interpolationStart, by simp [Rule.table], ?_⟩
          simp [Rule.answer, Scan.interpolationStart, Scan.rest, Mode.isInterpolating,
            hinterpolating, htext, beginsWithInterpolation]
        · cases hcloses : cursor.startsTerminator heredoc.quote with
          | true =>
              obtain ⟨terminator, hanswer, -⟩ := exists_heredocTerminator options hcloses
              refine ⟨.heredocTerminator, by simp [Rule.table], ?_⟩
              simp [Rule.answer, hanswer]
          | false =>
              have hpos := lineReach_pos (eq_false_of_ne_true hbreak) hinterpolation
              refine ⟨.heredocLine, by simp [Rule.table], ?_⟩
              simp [Rule.answer, heredocLine_eq, hcloses, htext]
              omega

/-! ## Every match that is selected is a reading -/

theorem reading_of_longest
    (h : longest (fun rule => Rule.answer rule ⟨cursor, mode, options⟩) (Rule.table mode.id) =
      some found) : Reading cursor mode found := by
  obtain ⟨rule, hmem, hanswer⟩ := exists_answer_of_longest h
  have hmax (other : Rule) (hother : other ∈ Rule.table mode.id) (later : Match)
      (hlater : Rule.answer other ⟨cursor, mode, options⟩ = some later) :
      later.extent ≤ found.extent := extent_le_of_longest h hother hlater
  cases mode with
  | initial =>
      exact reading_of_code rfl hmem hanswer (hmax .heredocOpening (by decide))
        (by simp [Scan.interpolationBrace])
  | interpolation depth =>
      have hrule : rule = .interpolationBrace ∨ rule ∈ Rule.code := by
        simpa [Mode.id, Rule.table] using hmem
      rcases hrule with rfl | hcode
      · exact reading_of_interpolationBrace hanswer
      · refine reading_of_code rfl hcode hanswer
          (hmax .heredocOpening (by simp [Mode.id, Rule.table, Rule.code]))
          fun brace hbrace => ?_
        replace hbrace : Rule.answer .interpolationBrace
          ⟨cursor, .interpolation depth, options⟩ = some brace := hbrace
        rw [Mode.id, Rule.table, longest_cons, hbrace] at h
        exact Match.eq_or_extent_lt_of_prefer h
  | sigilName =>
      obtain rfl : rule = .sigilName := by simpa [Mode.id, Rule.table] using hmem
      exact reading_of_sigilName hanswer
  | sigilDelimiter interpolating =>
      have hrule : rule = .sigilHeredoc ∨ rule = .sigilDelimiter := by
        simpa [Mode.id, Rule.table] using hmem
      rcases hrule with rfl | rfl
      · exact reading_of_sigilHeredoc hanswer
      · exact reading_of_sigilDelimiter hanswer
          (hmax .sigilHeredoc (by simp [Mode.id, Rule.table]))
  | sigilModifiers =>
      obtain rfl : rule = .sigilModifier := by simpa [Mode.id, Rule.table] using hmem
      exact reading_of_sigilModifier hanswer
  | group group =>
      have hrule : rule = .interpolationStart ∨ rule = .groupTerminator ∨ rule = .groupBody := by
        simpa [Mode.id, Rule.table] using hmem
      rcases hrule with rfl | rfl | rfl
      · obtain ⟨rfl, hinterpolating, tail, hrest⟩ := interpolationStart_eq_some hanswer
        exact .groupInterpolation hinterpolating hrest
      · exact reading_of_groupTerminator hanswer
      · exact reading_of_groupBody hanswer
  | heredocOpen heredoc =>
      have hrule : rule = .heredocOpeningEol ∨ rule = .heredocTrailing := by
        simpa [Mode.id, Rule.table] using hmem
      rcases hrule with rfl | rfl
      · exact reading_of_heredocOpeningEol hanswer
      · exact reading_of_heredocTrailing hanswer
  | heredocBody heredoc =>
      -- A terminator reaches over three characters, and nothing that competes with it does.
      have hopen (hshort : found.extent ≤ 2) : cursor.startsTerminator heredoc.quote = false := by
        cases hcloses : cursor.startsTerminator heredoc.quote with
        | false => rfl
        | true =>
            obtain ⟨terminator, hterminator, hlong⟩ :=
              exists_heredocTerminator options hcloses
            have hle := hmax .heredocTerminator (by simp [Mode.id, Rule.table])
              terminator hterminator
            omega
      have hrule : rule = .heredocTerminator ∨ rule = .eol ∨ rule = .interpolationStart ∨
          rule = .heredocLine := by
        simpa [Mode.id, Rule.table] using hmem
      rcases hrule with rfl | rfl | rfl | rfl
      · exact reading_of_heredocTerminator hanswer
      · exact reading_of_heredocEol hanswer hopen
      · obtain ⟨rfl, hinterpolating, tail, hrest⟩ := interpolationStart_eq_some hanswer
        exact .heredocInterpolation hinterpolating hrest (hopen (by simp [Match.moving]))
      · exact reading_of_heredocLine hanswer

/-- A match that is selected where characters are left is a reading of its mode. -/
theorem reading_of_emit (hrest : cursor.rest ≠ [])
    (h : classify cursor mode options = .emit found) : Reading cursor mode found := by
  unfold classify at h
  split at h
  · next answer hlongest =>
      obtain rfl := Outcome.emit.inj h
      exact reading_of_longest hlongest
  · next hnone =>
      split at h
      · simp at h
      · next htransient =>
          obtain rfl := Outcome.emit.inj h
          rw [longest_eq_none_iff] at hnone
          -- Only code can have no answer here: the text modes answer to every character.
          refine .badCharacter ?_
          cases mode with
          | initial => rfl
          | interpolation depth => rfl
          | sigilName => simp [Mode.isTransient] at htransient
          | sigilDelimiter interpolating => simp [Mode.isTransient] at htransient
          | sigilModifiers => simp [Mode.isTransient] at htransient
          | group group =>
              obtain ⟨rule, hmem, hanswer⟩ := group_answers options group hrest
              exact absurd (hnone rule hmem) hanswer
          | heredocOpen heredoc =>
              obtain ⟨rule, hmem, hanswer⟩ := heredocOpen_answers options heredoc hrest
              exact absurd (hnone rule hmem) hanswer
          | heredocBody heredoc =>
              obtain ⟨rule, hmem, hanswer⟩ := heredocBody_answers options heredoc hrest
              exact absurd (hnone rule hmem) hanswer

/-- A mode gives way only around a sigil, and only where nothing of the sigil follows. -/
theorem givesWay_of_giveWay (h : classify cursor mode options = .giveWay) :
    GivesWay cursor mode := by
  unfold classify at h
  split at h
  · simp at h
  · next hnone =>
      rw [longest_eq_none_iff] at hnone
      split at h
      · next htransient =>
          cases mode with
          | sigilName =>
              have hdeclined := hnone .sigilName (by simp [Mode.id, Rule.table])
              refine .sigilName ?_
              cases hrest : cursor.rest with
              | nil => rfl
              | cons letter tail =>
                  simpa [Rule.answer, Scan.sigilName, Scan.rest, hrest] using hdeclined
          | sigilDelimiter interpolating =>
              have hdeclined := hnone .sigilDelimiter (by simp [Mode.id, Rule.table])
              refine .sigilDelimiter ?_
              cases hrest : cursor.rest with
              | nil => rfl
              | cons opener tail =>
                  simpa [Rule.answer, Scan.sigilDelimiter, Scan.rest, hrest] using hdeclined
          | sigilModifiers =>
              have hdeclined := hnone .sigilModifier (by simp [Mode.id, Rule.table])
              refine .sigilModifiers ?_
              cases hletter : cursor.rest.head?.any Char.isAlpha with
              | false => rfl
              | true => simp [Rule.answer, Scan.sigilModifier, Scan.rest, hletter] at hdeclined
          | _ => simp [Mode.isTransient] at htransient
      · simp at h

/-- In a mode that does not give way there is always something to read. -/
theorem exists_reading (options : Options) (hrest : cursor.rest ≠ [])
    (hmode : mode.isTransient = false) :
    ∃ found, classify cursor mode options = .emit found ∧ Reading cursor mode found := by
  cases hclass : classify cursor mode options with
  | emit found => exact ⟨found, rfl, reading_of_emit hrest hclass⟩
  | giveWay => simp [(givesWay_of_giveWay hclass).isTransient] at hmode

end

end ElixirLexer
