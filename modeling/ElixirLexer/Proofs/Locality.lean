import ElixirLexer.Proofs.CodeRules
import ElixirLexer.Proofs.LineEnd
import ElixirLexer.Proofs.Sight
import ElixirLexer.Proofs.StackShape

/-!
# What follows the end of a line

What is selected at a place does not depend on what follows the last line of the text, as long as
the match ends in front of that, or is the line break itself (`classify_extends`).  There is one
exception.  The line that opens a heredoc is answered by a search through all that follows, and the
indentation found there goes into the mode and from there into the lines of the heredoc.  So matches
and modes are compared without it (`Match.unindented`, `Mode.unindented`).
-/

namespace ElixirLexer

/-! ## Without the indentation of heredocs -/

/-- A mode with another indentation for its heredoc. -/
def Mode.reindent (indent : Nat) : Mode → Mode
  | .heredocOpen heredoc => .heredocOpen { heredoc with indent }
  | .heredocBody heredoc => .heredocBody { heredoc with indent }
  | mode => mode

/-- A mode without the indentation that was found for its heredoc. -/
def Mode.unindented (mode : Mode) : Mode :=
  mode.reindent 0

/-- The same transition with its mode seen through a view. -/
def Transition.map (view : Mode → Mode) : Transition → Transition
  | .stay => .stay
  | .push mode => .push (view mode)
  | .pop => .pop
  | .replace mode => .replace (view mode)

/-- A match without the indentation of heredocs.  The indentation of a closing line is kept: it can
be told from the line itself. -/
def Match.unindented (found : Match) : Match :=
  { found with
    indent := if found.kind = .heredocLine then 0 else found.indent
    transition := found.transition.map Mode.unindented }

@[simp] theorem Mode.id_unindented (mode : Mode) : mode.unindented.id = mode.id := by
  cases mode <;> rfl

/-- Modes that are the same without the indentation differ in nothing else. -/
theorem Mode.exists_reindent {mode other : Mode} (h : other.unindented = mode.unindented) :
    ∃ indent, other = mode.reindent indent := by
  have hother : ∃ indent, other = other.unindented.reindent indent := by
    cases other with
    | heredocOpen heredoc => exact ⟨heredoc.indent, rfl⟩
    | heredocBody heredoc => exact ⟨heredoc.indent, rfl⟩
    | _ => exact ⟨0, rfl⟩
  obtain ⟨indent, hindent⟩ := hother
  refine ⟨indent, hindent.trans ?_⟩
  rw [h]
  cases mode <;> rfl

/-! ## Modes whose ends are in sight -/

/-- What ends a literal stands on one line. -/
def Mode.IsProper : Mode → Prop
  | .group body => isLineBreak body.closer = false
  | .heredocOpen heredoc | .heredocBody heredoc => isLineBreak heredoc.quote = false
  | _ => True

theorem Mode.OpenedBy.isProper {mode : Mode} {text : List Char} (h : mode.OpenedBy text) :
    mode.IsProper := by
  cases mode with
  | group body =>
      obtain ⟨hadmits, -, hcloser, -⟩ := h
      have hall : ['/', '|', '"', '\'', '(', '[', '{', '<'].all fun opener =>
          !isLineBreak (closingDelimiter opener) := by decide
      simp only [List.all_eq_true, Bool.not_eq_true'] at hall
      rw [IsProper, hcloser]
      exact hall _ (by simpa [isSigilDelimiter] using hadmits.isSigilDelimiter)
  | heredocOpen heredoc | heredocBody heredoc =>
      obtain ⟨literal, hliteral⟩ := Option.isSome_iff_exists.mp h.1
      exact isLineBreak_of_quotedLiteral? hliteral
  | _ => trivial

/-! ## Scans of a longer text -/

/-- `second` shows what `first` shows and goes on with `tail` behind it. -/
structure Scan.Extends (tail : List Char) (first second : Scan) : Prop where
  rest_eq : second.rest = first.rest ++ tail
  endsLine : EndsLine first.rest tail
  mode_eq : ∃ indent, second.mode = first.mode.reindent indent
  isProper : first.mode.IsProper
  /-- The body of a group does not reach over all that the first shows. -/
  body_lt : ∀ body, first.mode = .group body →
    (bodyReach body body.depth first.rest).length < first.rest.length
  mark_eq : second.hasByteOrderMark = first.hasByteOrderMark
  lineStart_eq : first.mode.isLined → second.cursor.atLineStart = first.cursor.atLineStart

/-! ## Rules of code -/

namespace EndsLine

variable {before before' behind tail : List Char} {c : Char} {mode mode' : Mode}
  {options options' : Options}

theorem whitespace_append (h : EndsLine (c :: behind) tail) (hc : Rule.canBegin c .whitespace)
    (hmark : Scan.hasByteOrderMark ⟨⟨before', c :: behind ++ tail⟩, mode', options'⟩ =
      Scan.hasByteOrderMark ⟨⟨before, c :: behind⟩, mode, options⟩) :
    Rule.answer .whitespace ⟨⟨before', c :: behind ++ tail⟩, mode', options'⟩ =
      Rule.answer .whitespace ⟨⟨before, c :: behind⟩, mode, options⟩ := by
  have hblank := failsAtBreaks (p := isBlank) (by decide) (by decide)
  have hbehind := h.of_cons_of_pass (p := fun c => isBlank c || c == byteOrderMark)
    (failsAtBreaks (by decide) (by decide)) hc
  simp only [Rule.answer, Scan.whitespace, hmark, Scan.rest]
  split
  · rw [List.cons_append, List.drop_one, List.drop_one, List.tail_cons, List.tail_cons,
      hbehind.takeWhile_append hblank]
  · rw [List.drop_zero, List.drop_zero, h.takeWhile_append hblank]

theorem comment_append (h : EndsLine ('#' :: behind) tail) :
    Rule.answer .comment ⟨⟨before', '#' :: behind ++ tail⟩, mode', options'⟩ =
      Rule.answer .comment ⟨⟨before, '#' :: behind⟩, mode, options⟩ := by
  have hbehind := h.of_cons (by decide)
  have hline := failsAtBreaks (p := fun d => !isLineBreak d) (by decide) (by decide)
  simp [Rule.answer, Scan.comment, Scan.rest, hbehind.takeWhile_append hline]

theorem heredocOpening_append {literal : Literal} (h : EndsLine (c :: behind) tail)
    (hliteral : quotedLiteral? c = some literal) :
    Rule.answer .heredocOpening ⟨⟨before', c :: behind ++ tail⟩, mode', options'⟩ =
      Rule.answer .heredocOpening ⟨⟨before, c :: behind⟩, mode, options⟩ := by
  have hmarker := h.beginsWithMarker_append (isLineBreak_of_quotedLiteral? hliteral)
  rw [List.cons_append] at hmarker
  simp only [Rule.answer, Scan.heredocOpening, Scan.rest, hliteral, List.cons_append, hmarker]
  rfl

/-- A letter behind the `~` does not end the line, so the character behind the letter is there. -/
theorem sigilOpening_append (h : EndsLine ('~' :: behind) tail) :
    Rule.answer .sigilOpening ⟨⟨before', '~' :: behind ++ tail⟩, mode', options'⟩ =
      Rule.answer .sigilOpening ⟨⟨before, '~' :: behind⟩, mode, options⟩ := by
  have hbehind := h.of_cons (by decide)
  obtain ⟨letter, more, rfl⟩ := List.exists_cons_of_ne_nil hbehind.ne_nil
  cases hletter : letter.isAlpha with
  | true =>
      have hmore := hbehind.of_cons_of_pass (p := Char.isAlpha)
        (failsAtBreaks (by decide) (by decide)) hletter
      obtain ⟨delimiter, others, rfl⟩ := List.exists_cons_of_ne_nil hmore.ne_nil
      rfl
  | false => cases more <;> cases tail <;> simp [Rule.answer, Scan.sigilOpening, Scan.rest, hletter]

theorem atom_append (h : EndsLine (':' :: behind) tail) :
    Rule.answer .atom ⟨⟨before', ':' :: behind ++ tail⟩, mode', options'⟩ =
      Rule.answer .atom ⟨⟨before, ':' :: behind⟩, mode, options⟩ := by
  have hbehind := h.of_cons (by decide)
  obtain ⟨d, more, rfl⟩ := List.exists_cons_of_ne_nil hbehind.ne_nil
  cases hd : isIdentifierStart d || Unicode.isUppercase d with
  | true =>
      have hmore := hbehind.of_cons_of_pass
        (p := fun d => isIdentifierStart d || Unicode.isUppercase d)
        (failsAtBreaks (by decide) (by decide)) hd
      simp [Rule.answer, Scan.atom, Scan.rest, hmore.wordRestLength_append]
  | false => simp [Rule.answer, Scan.atom, Scan.rest, hd]

theorem keyword_append (h : EndsLine behind tail) :
    Rule.answer .keyword ⟨⟨before', behind ++ tail⟩, mode', options'⟩ =
      Rule.answer .keyword ⟨⟨before, behind⟩, mode, options⟩ := by
  simp only [Rule.answer, Scan.keyword, Scan.rest, h.wordLength?_append]
  cases hlength : wordLength? behind with
  | none => rfl
  | some length =>
      obtain ⟨-, hle⟩ := wordLength?_bounds hlength
      simp only [List.take_append_of_le_length hle]
      rfl

theorem aliasName_append (h : EndsLine (c :: behind) tail) (hc : Unicode.isUppercase c) :
    Rule.answer .aliasName ⟨⟨before', c :: behind ++ tail⟩, mode', options'⟩ =
      Rule.answer .aliasName ⟨⟨before, c :: behind⟩, mode, options⟩ := by
  have hbehind := h.of_cons_of_pass (p := Unicode.isUppercase)
    (failsAtBreaks (by decide) (by decide)) hc
  simp [Rule.answer, Scan.aliasName, Scan.rest, hbehind.nameRestLength_append]

end EndsLine

/-- The rules of code answer the same. -/
theorem Rule.answer_code_extends {tail : List Char} {first second : Scan} {rule : Rule}
    (h : first.Extends tail second) (hmem : rule ∈ code) :
    rule.answer second = rule.answer first := by
  obtain ⟨⟨before, rest⟩, mode, options⟩ := first
  obtain ⟨⟨before', rest'⟩, mode', options'⟩ := second
  obtain ⟨hrest, hends, -, -, -, hmark, -⟩ := h
  obtain rfl : rest' = rest ++ tail := hrest
  replace hends : EndsLine rest tail := hends
  obtain ⟨c, behind, rfl⟩ := List.exists_cons_of_ne_nil hends.ne_nil
  -- A rule that cannot begin with the first character declines in both places.
  cases hbegin : canBegin c rule with
  | false => rw [answer_eq_none rfl hmem hbegin, answer_eq_none rfl hmem hbegin]
  | true =>
      cases rule with
      | whitespace => exact hends.whitespace_append hbegin hmark
      | eol => simp only [answer, Scan.eol, Scan.rest, hends.lineBreakLength_append]
      | comment =>
          obtain rfl : c = '#' := by simpa [canBegin] using hbegin
          exact hends.comment_append
      | heredocOpening =>
          obtain ⟨literal, hliteral⟩ := Option.isSome_iff_exists.mp hbegin
          exact hends.heredocOpening_append hliteral
      | sigilOpening =>
          obtain rfl : c = '~' := by simpa [canBegin] using hbegin
          exact hends.sigilOpening_append
      | charToken => simp only [answer, Scan.charToken, Scan.rest, hends.charTokenLength?_append]
      | number => simp only [answer, Scan.number, Scan.rest, hends.numberLength?_append]
      | atom =>
          obtain rfl : c = ':' := by simpa [canBegin] using hbegin
          exact hends.atom_append
      | keyword => exact hends.keyword_append
      | identifier => simp only [answer, Scan.identifier, Scan.rest, hends.wordLength?_append]
      | aliasName => exact hends.aliasName_append hbegin
      | operator => simp only [answer, Scan.operator, Scan.rest, hends.operatorLength?_append]
      | stringOpening | charListOpening | punctuation => rfl
      | _ => simp [code] at hmem

/-! ## Rules of the other modes -/

namespace EndsLine

variable {before before' text behind tail : List Char} {c : Char} {options options' : Options}

theorem sigilHeredoc_append (interpolating : Bool) (h : EndsLine (c :: behind) tail) :
    Rule.answer .sigilHeredoc ⟨⟨before', c :: behind ++ tail⟩, .sigilDelimiter interpolating,
        options'⟩ =
      Rule.answer .sigilHeredoc ⟨⟨before, c :: behind⟩, .sigilDelimiter interpolating,
        options⟩ := by
  cases hliteral : quotedLiteral? c with
  | none => simp [Rule.answer, Scan.sigilHeredoc, Scan.rest, hliteral]
  | some literal =>
      have hmarker := h.beginsWithMarker_append (isLineBreak_of_quotedLiteral? hliteral)
      rw [List.cons_append] at hmarker
      simp only [Rule.answer, Scan.sigilHeredoc, Scan.rest, List.cons_append, hliteral, hmarker]

/-- A closer does not end the line, so the character behind it is there. -/
theorem groupTerminator_append {body : Group} (h : EndsLine (c :: behind) tail)
    (hproper : isLineBreak body.closer = false) :
    Rule.answer .groupTerminator ⟨⟨before', c :: behind ++ tail⟩, .group body, options'⟩ =
      Rule.answer .groupTerminator ⟨⟨before, c :: behind⟩, .group body, options⟩ := by
  by_cases hcloses : body.depth = 0 ∧ c = body.closer
  · have hbehind := h.of_cons (by rw [hcloses.2]; exact hproper)
    simp [Rule.answer, Scan.groupTerminator, Scan.rest, hcloses, closing, hbehind.head?_append]
  · simp [Rule.answer, Scan.groupTerminator, Scan.rest, hcloses]

theorem heredocTrailing_append {mode mode' : Mode} (h : EndsLine text tail) :
    Rule.answer .heredocTrailing ⟨⟨before', text ++ tail⟩, mode', options'⟩ =
      Rule.answer .heredocTrailing ⟨⟨before, text⟩, mode, options⟩ := by
  have hline := failsAtBreaks (p := fun d => !isLineBreak d) (by decide) (by decide)
  simp only [Rule.answer, Scan.heredocTrailing, Scan.rest, h.takeWhile_append hline]

/-- What stands behind the closing line of a heredoc is looked at only for the modifiers of a
sigil. -/
theorem heredocTerminator_append {heredoc : Heredoc} (indent : Nat) (h : EndsLine text tail)
    (hproper : isLineBreak heredoc.quote = false)
    (hstart : Cursor.atLineStart ⟨before', text ++ tail⟩ = Cursor.atLineStart ⟨before, text⟩) :
    Rule.answer .heredocTerminator ⟨⟨before', text ++ tail⟩, .heredocBody { heredoc with indent },
        options'⟩ =
      Rule.answer .heredocTerminator ⟨⟨before, text⟩, .heredocBody heredoc, options⟩ := by
  simp only [Rule.answer, Scan.heredocTerminator, Scan.rest, hstart,
    h.terminatorIndent?_append heredoc.quote hproper]
  cases hwidth : terminatorIndent? heredoc.quote text with
  | none => rfl
  | some width =>
      have hlt := h.terminatorIndent?_lt hproper hwidth
      simp only [closing, drop_append hlt, (h.drop hlt).head?_append]

theorem heredocLine_append {heredoc : Heredoc} (indent : Nat) (h : EndsLine text tail)
    (hproper : isLineBreak heredoc.quote = false)
    (hstart : Cursor.atLineStart ⟨before', text ++ tail⟩ = Cursor.atLineStart ⟨before, text⟩) :
    (Rule.answer .heredocLine ⟨⟨before', text ++ tail⟩, .heredocBody { heredoc with indent },
        options'⟩).map Match.unindented =
      (Rule.answer .heredocLine ⟨⟨before, text⟩, .heredocBody heredoc, options⟩).map
        Match.unindented := by
  simp only [Rule.answer, heredocLine_eq, Cursor.startsTerminator, hstart,
    h.terminatorIndent?_append heredoc.quote hproper, h.lineReach_append]
  split
  · rfl
  · split <;> rfl

end EndsLine

/-- The rules of the other modes answer the same, the indentation of heredocs apart. -/
theorem Rule.answer_extends {tail : List Char} {first second : Scan}
    (h : first.Extends tail second) (rule : Rule) :
    (rule.answer second).map Match.unindented = (rule.answer first).map Match.unindented := by
  by_cases hmem : rule ∈ code
  · rw [answer_code_extends h hmem]
  · obtain ⟨⟨before, rest⟩, mode, options⟩ := first
    obtain ⟨⟨before', rest'⟩, mode', options'⟩ := second
    obtain ⟨hrest, hends, ⟨indent, hmode⟩, hproper, hbody, -, hline⟩ := h
    obtain rfl : rest' = rest ++ tail := hrest
    obtain rfl : mode' = mode.reindent indent := hmode
    replace hends : EndsLine rest tail := hends
    obtain ⟨c, behind, rfl⟩ := List.exists_cons_of_ne_nil hends.ne_nil
    -- A rule answers in its own mode only.
    cases rule with
    | sigilName | sigilModifier => rfl
    | sigilDelimiter | interpolationBrace => cases mode <;> rfl
    | sigilHeredoc =>
        cases mode with
        | sigilDelimiter interpolating =>
            exact congrArg _ (hends.sigilHeredoc_append interpolating)
        | _ => rfl
    | interpolationStart =>
        have hmode : (mode.reindent indent).isInterpolating = mode.isInterpolating := by
          cases mode <;> rfl
        simp only [answer, Scan.interpolationStart, Scan.rest, hmode,
          hends.beginsWithInterpolation_append]
        rfl
    | groupBody =>
        cases mode with
        | group body =>
            have hreach := bodyReach_append tail (hbody body rfl)
            simp only [Mode.reindent, answer, groupBody_eq, Scan.rest] at hreach ⊢
            rw [hreach]
        | _ => rfl
    | groupTerminator =>
        cases mode with
        | group body => exact congrArg _ (hends.groupTerminator_append hproper)
        | _ => rfl
    | heredocTrailing => exact congrArg _ hends.heredocTrailing_append
    | heredocOpeningEol =>
        cases mode with
        | heredocOpen heredoc =>
            simp only [Mode.reindent, answer, heredocOpeningEol_eq, hends.lineBreakLength_append]
            split <;> rfl
        | _ => rfl
    | heredocTerminator =>
        cases mode with
        | heredocBody heredoc =>
            exact congrArg _ (hends.heredocTerminator_append indent hproper (hline rfl))
        | _ => rfl
    | heredocLine =>
        cases mode with
        | heredocBody heredoc => exact hends.heredocLine_append indent hproper (hline rfl)
        | _ => rfl
    | _ => simp [code] at hmem

/-! ## Classification -/

/-- An outcome without the indentation of heredocs. -/
def Outcome.unindented : Outcome → Outcome
  | .emit found => .emit found.unindented
  | .giveWay => .giveWay

/-- What is selected does not depend on what follows the last line. -/
theorem classify_extends {tail : List Char} {cursor other : Cursor} {mode next : Mode}
    {options others : Options}
    (h : Scan.Extends tail ⟨cursor, mode, options⟩ ⟨other, next, others⟩) :
    (classify other next others).unindented = (classify cursor mode options).unindented := by
  obtain ⟨indent, hmode⟩ := h.mode_eq
  obtain rfl : next = mode.reindent indent := hmode
  have hid : (mode.reindent indent).id = mode.id := by cases mode <;> rfl
  have htransient : (mode.reindent indent).isTransient = mode.isTransient := by cases mode <;> rfl
  have hextent : ∀ found : Match, found.unindented.extent = found.extent := fun _ => rfl
  have hlongest : (longest (fun rule => Rule.answer rule ⟨other, mode.reindent indent, others⟩)
        (Rule.table mode.id)).map Match.unindented =
      (longest (fun rule => Rule.answer rule ⟨cursor, mode, options⟩)
        (Rule.table mode.id)).map Match.unindented := by
    rw [← longest_map hextent, ← longest_map hextent]
    exact longest_congr fun rule _ => Rule.answer_extends h rule
  unfold classify
  rw [hid, htransient]
  revert hlongest
  cases longest (fun rule => Rule.answer rule ⟨other, mode.reindent indent, others⟩)
      (Rule.table mode.id) with
  | none =>
      cases longest (fun rule => Rule.answer rule ⟨cursor, mode, options⟩) (Rule.table mode.id) with
      | none => exact fun _ => rfl
      | some found => simp
  | some found =>
      cases longest (fun rule => Rule.answer rule ⟨cursor, mode, options⟩) (Rule.table mode.id) with
      | none => simp
      | some earlier => exact fun hfound => congrArg Outcome.emit (Option.some.inj hfound)

/-- In a group the body is selected unless something else reaches as far. -/
theorem length_bodyReach_le_of_emit {cursor : Cursor} {body : Group} {options : Options}
    {found : Match} (hrest : cursor.rest ≠ [])
    (h : classify cursor (.group body) options = .emit found) :
    (bodyReach body body.depth cursor.rest).length ≤ found.length ∧ found.kind ≠ .eol := by
  have hreading : found.extent = found.length ∧ found.kind ≠ .eol := by
    cases reading_of_emit hrest h with
    | plain hmode => simp [Mode.isCode] at hmode
    | badCharacter hmode => simp [Mode.isCode] at hmode
    | heredocOpening hmode => simp [Mode.isCode] at hmode
    | quoteOpening hmode => simp [Mode.isCode] at hmode
    | sigilOpening hmode => simp [Mode.isCode] at hmode
    | groupTerminator hdepth htext =>
        refine ⟨rfl, ?_⟩
        cases hliteral : body.literal <;> simp [Match.moving, Literal.terminatorKind]
    | groupBody hpos =>
        refine ⟨rfl, ?_⟩
        cases hliteral : body.literal <;> simp [Match.moving, Literal.bodyKind]
    | groupInterpolation hinterpolating htext => exact ⟨rfl, by simp [Match.moving]⟩
  refine ⟨?_, hreading.2⟩
  rw [← hreading.1]
  by_cases hlength : (bodyReach body body.depth cursor.rest).length = 0
  · omega
  · have hanswer : Rule.answer .groupBody ⟨cursor, .group body, options⟩ = some
        (Match.moving body.literal.bodyKind (bodyReach body body.depth cursor.rest).length
          (body.deepened (bodyReach body body.depth cursor.rest).depth)) := by
      rw [Rule.answer, groupBody_eq, if_neg hlength]
    unfold classify at h
    split at h
    · next hlongest =>
        obtain rfl := Outcome.emit.inj h
        exact extent_le_of_longest hlongest (by simp [Mode.id, Rule.table]) hanswer
    · next hnone =>
        have hdeclined := longest_eq_none_iff.mp hnone .groupBody (by simp [Mode.id, Rule.table])
        simp [hanswer] at hdeclined

end ElixirLexer
