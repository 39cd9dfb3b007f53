import ElixirLexer.Proofs.CodeRules
import ElixirLexer.Proofs.Delimiters
import ElixirLexer.Proofs.OptionEffects
import ElixirLexer.Proofs.WellNested

/-!
# Where the order of the rules matters

Two rules are told apart by their order only where both answer and reach equally far.  The rules of
code differ by their first characters but for five pairs (`Rule.contend`).  In four of these the two
reach differently far wherever both answer; a reserved word alone is an identifier of the same
length.  In interpolated code the rule that counts braces reaches as far as that of punctuation.  In
the text of a literal no two rules answer at once.

So a table may be rearranged as long as these two pairs keep their order (`longest_rearranged`).
This asks for delimiters that can delimit a literal: a group closed by a backslash would have a body
and a closer at one place.  The modes of a lexer that starts in plain code have such delimiters,
and nothing is said about others.
-/

namespace ElixirLexer

/-! ## Letters are of one case -/

namespace Unicode

/-- Whether no range of one list meets a range of the other.  Both are ascending, so of the other
list only what is not below the next range is looked at. -/
def Ranges.isApart : Ranges → Ranges → Bool
  | [], _ => true
  | range :: higher, others =>
      match others.dropWhile fun other => other.2 < range.1 with
      | [] => true
      | next :: beyond => range.2 < next.1 && isApart higher (next :: beyond)

theorem Ranges.covers_dropWhile {ranges : Ranges} {first code : Nat} (hfirst : first ≤ code)
    (h : ranges.covers code = true) :
    Ranges.covers (ranges.dropWhile fun range => range.2 < first) code = true := by
  induction ranges with
  | nil => exact h
  | cons range higher ih =>
      rw [List.dropWhile_cons]
      split
      · next hbelow =>
          have hlast : range.2 < first := of_decide_eq_true hbelow
          rw [covers] at h
          split at h
          · simp at h
          · rw [if_neg (by omega)] at h
            exact ih h
      · exact h

theorem Ranges.covers_eq_false_of_isApart {ranges others : Ranges} {code : Nat}
    (hapart : ranges.isApart others = true) (h : ranges.covers code = true) :
    others.covers code = false := by
  induction ranges generalizing others with
  | nil => simp [covers] at h
  | cons range higher ih =>
      by_contra hother
      rw [Bool.not_eq_false] at hother
      rw [covers] at h
      split at h
      · simp at h
      · next hfirst =>
          have hdropped := covers_dropWhile (Nat.not_lt.mp hfirst) hother
          rw [isApart] at hapart
          cases hbeyond : others.dropWhile (fun other => other.2 < range.1) with
          | nil => simp [hbeyond, covers] at hdropped
          | cons next beyond =>
              rw [hbeyond] at hapart hdropped
              obtain ⟨hnext, hhigher⟩ := Bool.and_eq_true_iff.mp hapart
              replace hnext := of_decide_eq_true hnext
              split at h
              · rw [covers, if_pos (by omega)] at hdropped
                simp at hdropped
              · rw [ih hhigher h] at hdropped
                simp at hdropped

theorem isUppercase_eq_false_of_isLowercase {c : Char} (h : isLowercase c) :
    isUppercase c = false := by
  have hapart : lowercase.isApart uppercase = true := by decide +kernel
  exact Ranges.covers_eq_false_of_isApart hapart h

end Unicode

/-! ## Rules of code that can begin with one character -/

namespace Rule

/-- The pairs of rules of code that some character can begin, in the order of the table. -/
def contend : Rule → Rule → Bool
  | heredocOpening, stringOpening | heredocOpening, charListOpening | sigilOpening, operator
  | atom, operator | keyword, identifier => true
  | _, _ => false

/-- The pairs of rules that can reach equally far. -/
def precedes : Rule → Rule → Bool
  | keyword, identifier | interpolationBrace, punctuation => true
  | _, _ => false

/-- In a list of rules the two pairs that can reach equally far stand in their order. -/
def KeepsOrder (rules : List Rule) : Prop :=
  rules.Pairwise fun earlier later => later.precedes earlier = false

theorem keepsOrder_table (id : ModeId) : KeepsOrder (table id) := by
  cases id <;> unfold KeepsOrder <;> decide

/-- Beyond ASCII there are only white space and words. -/
theorem mem_of_canBegin_of_not_ascii {c : Char} (hc : 128 ≤ c.toNat) {rule : Rule}
    (hmem : rule ∈ code) (h : rule.canBegin c) :
    rule ∈ [whitespace, keyword, identifier, aliasName] := by
  have hne (other : Char) (hother : other.toNat < 128) : c ≠ other := by
    rintro rfl
    omega
  cases rule with
  | whitespace | keyword | identifier | aliasName => decide
  | eol => simp [canBegin, isLineBreak, hne '\n', hne '\r'] at h
  | comment => simp [canBegin, hne '#'] at h
  | heredocOpening => simp [canBegin, quotedLiteral?, hne '"', hne '\''] at h
  | stringOpening => simp [canBegin, hne '"'] at h
  | charListOpening => simp [canBegin, hne '\''] at h
  | sigilOpening => simp [canBegin, hne '~'] at h
  | charToken => simp [canBegin, hne '?'] at h
  | number =>
      have hnine : ¬ c.val ≤ 57 := fun hle => by
        have hnat : c.toNat ≤ 57 := UInt32.le_iff_toNat_le.mp hle
        omega
      simp [canBegin, Char.isDigit, hnine] at h
  | atom => simp [canBegin, hne ':'] at h
  | operator =>
      have hascii : operators.all fun operator => operator.head?.all fun first =>
          first.toNat < 128 := by decide
      obtain ⟨operator, hoperator, hfirst⟩ := List.any_eq_true.mp h
      have hlt := List.all_eq_true.mp hascii operator hoperator
      rw [eq_of_beq hfirst, Option.all_some, decide_eq_true_eq] at hlt
      omega
  | punctuation =>
      have hascii : ∀ entry ∈ punctuationKinds, entry.1.toNat < 128 := by decide
      obtain ⟨kind, hkind⟩ := Option.isSome_iff_exists.mp h
      obtain ⟨before, after, hsplit, -⟩ := List.lookup_eq_some_iff.mp hkind
      have hlt : c.toNat < 128 := hascii (c, kind) (by simp [hsplit])
      omega
  | _ => simp [code] at hmem

/-- Two rules that one character can begin are one rule or contend. -/
theorem eq_or_contend {c : Char} {rule other : Rule} (hmem : rule ∈ code) (hother : other ∈ code)
    (hbegin : rule.canBegin c) (hbegin' : other.canBegin c) :
    rule = other ∨ rule.contend other ∨ other.contend rule := by
  by_cases hascii : c.toNat < 128
  · have hlisted : ∀ place < 128, (code.filter (canBegin (Char.ofNat place))).Pairwise
        fun rule other => rule.contend other := by decide +kernel
    have hpairwise := hlisted c.toNat hascii
    rw [Char.ofNat_toNat] at hpairwise
    have hevery : ∀ rule ∈ code.filter (canBegin c), ∀ other ∈ code.filter (canBegin c),
        rule = other ∨ rule.contend other ∨ other.contend rule :=
      List.Pairwise.forall_of_forall_of_flip (fun _ _ => .inl rfl)
        (hpairwise.imp fun h => .inr (.inl h)) (hpairwise.imp fun h => .inr (.inr h))
    exact hevery rule (List.mem_filter.mpr ⟨hmem, hbegin⟩) other
      (List.mem_filter.mpr ⟨hother, hbegin'⟩)
  · have hletter := mem_of_canBegin_of_not_ascii (Nat.not_lt.mp hascii) hmem hbegin
    have hletter' := mem_of_canBegin_of_not_ascii (Nat.not_lt.mp hascii) hother hbegin'
    by_cases hspace : canBegin c whitespace
    · have honly : code.filter (canBegin c) = [whitespace] := by
        rcases Bool.or_eq_true_iff.mp hspace with hblank | hmark
        · exact filter_canBegin_of_isBlank hblank
        · rw [eq_of_beq hmark]
          exact filter_canBegin_byteOrderMark
      have hsame {rule : Rule} (hmem : rule ∈ code) (hbegin : rule.canBegin c) :
          rule = whitespace := by
        simpa [honly] using List.mem_filter.mpr ⟨hmem, hbegin⟩
      exact .inl ((hsame hmem hbegin).trans (hsame hother hbegin').symm)
    · -- What is left are words, which begin with a letter of one case or of the other.
      have hcase : ¬ (isIdentifierStart c ∧ Unicode.isUppercase c) := by
        rintro ⟨hstart, hupper⟩
        rcases Bool.or_eq_true_iff.mp hstart with hlower | hunderscore
        · rw [Unicode.isUppercase_eq_false_of_isLowercase hlower] at hupper
          simp at hupper
        · obtain rfl := eq_of_beq hunderscore
          exact absurd (by decide) hascii
      simp only [List.mem_cons, List.not_mem_nil, or_false] at hletter hletter'
      rcases hletter with rfl | rfl | rfl | rfl <;> rcases hletter' with rfl | rfl | rfl | rfl <;>
        simp_all [canBegin, contend]

/-! ## How far contending rules reach -/

section

variable {cursor : Cursor} {mode : Mode} {options : Options} {found tied : Match}

/-- No rule of code answers at the end of the text. -/
theorem answer_eq_none_of_rest_nil {rule : Rule} (hmem : rule ∈ code) (hrest : cursor.rest = []) :
    rule.answer ⟨cursor, mode, options⟩ = none := by
  cases rule with
  | whitespace =>
      simp [answer, Scan.whitespace, Scan.hasByteOrderMark, Scan.rest, hrest, Match.nonempty]
  | number => simp [answer, Scan.number, Scan.rest, hrest, Number.length?, Number.beginsWithDigit]
  | operator =>
      have hnone : operatorLength? [] = none := by decide
      simp [answer, Scan.operator, Scan.rest, hrest, hnone]
  | eol => simp [answer, Scan.eol, Scan.rest, hrest, lineBreakLength, Match.nonempty]
  | comment => simp [answer, Scan.comment, Scan.rest, hrest]
  | heredocOpening => simp [answer, Scan.heredocOpening, Scan.rest, hrest]
  | stringOpening => simp [answer, Scan.stringOpening, Scan.rest, hrest]
  | charListOpening => simp [answer, Scan.charListOpening, Scan.rest, hrest]
  | sigilOpening => simp [answer, Scan.sigilOpening, Scan.rest, hrest]
  | charToken => simp [answer, Scan.charToken, Scan.rest, hrest, charTokenLength?]
  | atom => simp [answer, Scan.atom, Scan.rest, hrest]
  | keyword => simp [answer, Scan.keyword, Scan.rest, hrest, wordLength?]
  | identifier => simp [answer, Scan.identifier, Scan.rest, hrest, wordLength?]
  | aliasName => simp [answer, Scan.aliasName, Scan.rest, hrest]
  | punctuation => simp [answer, Scan.punctuation, Scan.rest, hrest]
  | _ => simp [code] at hmem

/-- A rule of code that answers can begin with the next character. -/
theorem exists_canBegin_of_answer {rule : Rule} (hmem : rule ∈ code)
    (h : rule.answer ⟨cursor, mode, options⟩ = some found) :
    ∃ c, cursor.rest.head? = some c ∧ rule.canBegin c := by
  cases hrest : cursor.rest with
  | nil => simp [answer_eq_none_of_rest_nil hmem hrest] at h
  | cons c tail =>
      refine ⟨c, rfl, ?_⟩
      by_contra hbegin
      simp [answer_eq_none hrest hmem (eq_false_of_ne_true hbegin)] at h

theorem extent_of_heredocOpening
    (h : answer heredocOpening ⟨cursor, mode, options⟩ = some found) : found.extent = 3 := by
  simp only [answer, Scan.heredocOpening] at h
  grind [Match.moving]

theorem extent_of_quoteOpening {rule : Rule} (hrule : rule = stringOpening ∨ rule = charListOpening)
    (h : rule.answer ⟨cursor, mode, options⟩ = some found) : found.extent = 1 := by
  rcases hrule with rfl | rfl
  · simp only [answer, Scan.stringOpening] at h
    grind [Match.moving]
  · simp only [answer, Scan.charListOpening] at h
    grind [Match.moving]

/-- An operator has one character where the next one goes on no operator. -/
theorem extent_of_operator {first second : Char} {tail : List Char}
    (hrest : cursor.rest = first :: second :: tail)
    (halone : ∀ others, first :: second :: others ∉ operators)
    (h : answer operator ⟨cursor, mode, options⟩ = some found) : found.extent = 1 := by
  simp only [answer, Scan.operator, Scan.rest, hrest] at h
  obtain ⟨length, hlength, rfl⟩ := Option.map_eq_some_iff.mp h
  obtain ⟨operator, hoperator, rfl⟩ := List.mem_map.mp (List.max?_mem hlength)
  obtain ⟨hmem, hprefix⟩ := List.mem_filter.mp hoperator
  rw [List.isPrefixOf_iff_prefix] at hprefix
  cases operator with
  | nil => exact absurd hmem (by decide)
  | cons mark behind =>
      cases behind with
      | nil => rfl
      | cons next others =>
          obtain ⟨rfl, hbehind⟩ := List.cons_prefix_cons.mp hprefix
          obtain ⟨rfl, -⟩ := List.cons_prefix_cons.mp hbehind
          exact absurd hmem (halone others)

theorem extent_of_sigilOpening (h : answer sigilOpening ⟨cursor, mode, options⟩ = some found)
    (htied : answer operator ⟨cursor, mode, options⟩ = some tied) :
    found.extent = 3 ∧ tied.extent = 1 := by
  have hsecond : ∀ operator ∈ operators, operator.head? = some '~' →
      operator[1]?.any Char.isAlpha = false := by decide
  simp only [answer, Scan.sigilOpening] at h
  split at h
  · next tilde letter delimiter behind hrest =>
      split at h
      · next hopens =>
          obtain ⟨rfl, hletter, -⟩ := hopens
          obtain rfl := Option.some.inj h
          refine ⟨rfl, extent_of_operator hrest (fun others hmem => ?_) htied⟩
          simpa [hletter] using hsecond _ hmem rfl
      · simp at h
  · simp at h

theorem extent_of_atom (h : answer atom ⟨cursor, mode, options⟩ = some found)
    (htied : answer operator ⟨cursor, mode, options⟩ = some tied) :
    2 ≤ found.extent ∧ tied.extent = 1 := by
  have hsecond : ∀ operator ∈ operators, operator.head? = some ':' →
      operator[1]?.any (fun c => isIdentifierStart c || Unicode.isUppercase c) = false := by
    decide +kernel
  simp only [answer, Scan.atom] at h
  split at h
  · next colon c behind hrest =>
      split at h
      · next hopens =>
          obtain ⟨rfl, hword⟩ := hopens
          obtain rfl := Option.some.inj h
          refine ⟨Nat.le_add_right _ _, extent_of_operator hrest (fun others hmem => ?_) htied⟩
          have halone := hsecond _ hmem rfl
          rw [List.getElem?_cons_succ, List.getElem?_cons_zero, Option.any_some, hword] at halone
          simp at halone
      · simp at h
  · simp at h

/-- Of contending rules that both answer one reaches further, but for a reserved word. -/
theorem extent_ne_of_contend {rule other : Rule} (hcontend : rule.contend other)
    (hfound : rule.answer ⟨cursor, mode, options⟩ = some found)
    (htied : other.answer ⟨cursor, mode, options⟩ = some tied) :
    tied.extent ≠ found.extent ∨ rule = keyword ∧ other = identifier := by
  unfold contend at hcontend
  split at hcontend
  · have hthree := extent_of_heredocOpening hfound
    have hone := extent_of_quoteOpening (.inl rfl) htied
    exact .inl (by omega)
  · have hthree := extent_of_heredocOpening hfound
    have hone := extent_of_quoteOpening (.inr rfl) htied
    exact .inl (by omega)
  · have hextents := extent_of_sigilOpening hfound htied
    exact .inl (by omega)
  · have hextents := extent_of_atom hfound htied
    exact .inl (by omega)
  · exact .inr ⟨rfl, rfl⟩
  · simp at hcontend

/-- Rules of code that reach equally far are told apart by the order. -/
theorem precedes_of_code {rule other : Rule} (hmem : rule ∈ code) (hother : other ∈ code)
    (hfound : rule.answer ⟨cursor, mode, options⟩ = some found)
    (htied : other.answer ⟨cursor, mode, options⟩ = some tied)
    (hextent : tied.extent = found.extent) :
    rule = other ∨ rule.precedes other ∨ other.precedes rule := by
  obtain ⟨c, hc, hbegin⟩ := exists_canBegin_of_answer hmem hfound
  obtain ⟨d, hd, hbegin'⟩ := exists_canBegin_of_answer hother htied
  obtain rfl : c = d := Option.some.inj (hc.symm.trans hd)
  rcases eq_or_contend hmem hother hbegin hbegin' with heq | hcontend | hcontend
  · exact .inl heq
  · obtain ⟨rfl, rfl⟩ := (extent_ne_of_contend hcontend hfound htied).resolve_left
      (not_not.mpr hextent)
    exact .inr (.inl rfl)
  · obtain ⟨rfl, rfl⟩ := (extent_ne_of_contend hcontend htied hfound).resolve_left
      (not_not.mpr hextent.symm)
    exact .inr (.inr rfl)

/-- Where the rule that counts braces answers, of the others only that of punctuation does. -/
theorem eq_punctuation_of_interpolationBrace {rule : Rule} (hmem : rule ∈ code)
    (hbrace : answer interpolationBrace ⟨cursor, mode, options⟩ = some found)
    (h : rule.answer ⟨cursor, mode, options⟩ = some tied) : rule = punctuation := by
  obtain ⟨c, hc, hbegin⟩ := exists_canBegin_of_answer hmem h
  have honly : code.filter (canBegin c) = [punctuation] := by
    have hc' : c = '{' ∨ c = '}' := by
      simp only [answer, Scan.interpolationBrace] at hbrace
      grind [Scan.rest]
    rcases hc' with rfl | rfl <;> decide
  simpa [honly] using List.mem_filter.mpr ⟨hmem, hbegin⟩

end

end Rule

/-! ## Modes of a lexer that starts in plain code -/

/-- A mode that some frame has while a text is lexed from plain code. -/
def Mode.IsReached (mode : Mode) : Prop :=
  ∃ text options count run frame, (Lexer.ofText text options).pull count = .ok run ∧
    frame ∈ run.lexer.stack.frames ∧ frame.mode = mode

/-- The mode that is in effect behind some tokens is reached. -/
theorem Mode.isReached_of_pull {mode : Mode} (text : List Char) (options : Options) (count : Nat)
    (h : ((Lexer.ofText text options).pull count).map (fun run => run.lexer.stack.top.mode) =
      .ok mode) : mode.IsReached := by
  obtain ⟨run, hpull⟩ := Lexer.exists_pull count (Lexer.ofText text options)
  rw [hpull] at h
  obtain ⟨front, hframes⟩ := run.lexer.stack.exists_frames_eq
  exact ⟨text, options, count, run, run.lexer.stack.top, hpull, by simp [hframes],
    Except.ok.inj h⟩

/-- What closes a literal neither escapes nor begins an interpolation, and breaks no line. -/
def Mode.IsDelimited : Mode → Prop
  | .group body => body.closer ≠ '\\' ∧ body.closer ≠ '#'
  | .heredocOpen heredoc | .heredocBody heredoc =>
      heredoc.quote ≠ '#' ∧ isLineBreak heredoc.quote = false
  | _ => True

theorem Mode.OpenedBy.isDelimited {mode : Mode} {text : List Char} (h : mode.OpenedBy text) :
    mode.IsDelimited := by
  cases mode with
  | group body =>
      obtain ⟨hadmits, -, hcloser, -⟩ := h
      obtain ⟨hescape, hhash, -⟩ := closingDelimiter_ne hadmits.isSigilDelimiter
      rw [← hcloser] at hescape hhash
      exact ⟨hescape, hhash⟩
  | heredocOpen heredoc | heredocBody heredoc =>
      obtain ⟨literal, hliteral⟩ := Option.isSome_iff_exists.mp h.1
      refine ⟨?_, isLineBreak_of_quotedLiteral? hliteral⟩
      rcases eq_of_quotedLiteral? hliteral with ⟨hquote, -⟩ | ⟨hquote, -⟩ <;> rw [hquote] <;> decide
  | _ => trivial

theorem Mode.IsReached.isDelimited {mode : Mode} (h : mode.IsReached) : mode.IsDelimited := by
  obtain ⟨text, options, count, run, frame, hpull, hframe, rfl⟩ := h
  have hshaped : Lexer.IsShaped text run.lexer :=
    Lexer.pull_invariant (fun _ _ hkept hstep => hkept.step hstep) (.ofText text options) hpull
  rw [Stack.frames, List.mem_cons, List.mem_reverse] at hframe
  rcases hframe with rfl | hframe
  · trivial
  · exact (hshaped.shaped.nested.openedBy frame hframe).isDelimited

/-! ## One answer at a time -/

/-- Where a rule of the list answers, those behind it decline. -/
def Rule.TakeTurns (scan : Scan) (rules : List Rule) : Prop :=
  rules.Pairwise fun rule other => rule.answer scan ≠ none → other.answer scan = none

/-- Of rules that take turns no two answer. -/
theorem Rule.TakeTurns.eq_of_answers {scan : Scan} {rules : List Rule}
    (h : TakeTurns scan rules) : ∀ rule ∈ rules, ∀ other ∈ rules,
      rule.answer scan ≠ none → other.answer scan ≠ none → rule = other :=
  List.Pairwise.forall_of_forall_of_flip (fun _ _ _ _ => rfl)
    (h.imp fun hturn hrule hother => absurd (hturn hrule) hother)
    (h.imp fun hturn hother hrule => absurd (hturn hrule) hother)

section

variable {cursor : Cursor} {options : Options} {mode : Mode}

theorem interpolationStart_eq_none (h : ∀ tail, cursor.rest ≠ '#' :: '{' :: tail) :
    Scan.interpolationStart ⟨cursor, mode, options⟩ = none := by
  rw [Option.eq_none_iff_forall_ne_some]
  intro found hfound
  obtain ⟨-, -, tail, htail⟩ := interpolationStart_eq_some hfound
  exact h tail htail

theorem exists_of_groupTerminator {group : Group}
    (h : Scan.groupTerminator ⟨cursor, .group group, options⟩ ≠ none) :
    group.depth = 0 ∧ ∃ tail, cursor.rest = group.closer :: tail := by
  unfold Scan.groupTerminator at h
  split at h
  · next g c tail hmode hrest =>
      obtain rfl : group = g := Mode.group.inj hmode
      split at h
      · next hcloses => exact ⟨hcloses.1, tail, hcloses.2 ▸ hrest⟩
      · exact absurd rfl h
  · exact absurd rfl h

theorem groupBody_eq_none {group : Group}
    (h : (bodyReach group group.depth cursor.rest).length = 0) :
    Scan.groupBody ⟨cursor, .group group, options⟩ = none := by
  rw [groupBody_eq, if_pos h]

/-- A body, its closer and an interpolation in it begin at different places. -/
theorem takeTurns_group {group : Group} (hdelimited : Mode.IsDelimited (.group group)) :
    Rule.TakeTurns ⟨cursor, .group group, options⟩ (Rule.table .group) := by
  obtain ⟨hescape, hhash⟩ := hdelimited
  have hstart (h : Scan.interpolationStart ⟨cursor, .group group, options⟩ ≠ none) :
      Scan.groupTerminator ⟨cursor, .group group, options⟩ = none ∧
        Scan.groupBody ⟨cursor, .group group, options⟩ = none := by
    obtain ⟨found, hfound⟩ := Option.ne_none_iff_exists'.mp h
    obtain ⟨-, hinterpolating, tail, htext⟩ := interpolationStart_eq_some hfound
    replace hinterpolating : group.interpolating = true := hinterpolating
    refine ⟨?_, groupBody_eq_none (by simp [htext, bodyReach, hinterpolating])⟩
    by_contra hends
    obtain ⟨-, behind, hcloser⟩ := exists_of_groupTerminator hends
    rw [htext] at hcloser
    exact hhash (List.cons.inj hcloser).1.symm
  have hend (h : Scan.groupTerminator ⟨cursor, .group group, options⟩ ≠ none) :
      Scan.groupBody ⟨cursor, .group group, options⟩ = none := by
    obtain ⟨hdepth, tail, htext⟩ := exists_of_groupTerminator h
    refine groupBody_eq_none ?_
    rw [htext, hdepth]
    unfold bodyReach
    simp [hescape, hhash]
  simpa [Rule.TakeTurns, Rule.table, Rule.answer] using
    ⟨⟨fun h => (hstart h).1, fun h => (hstart h).2⟩, hend⟩

/-- The line that opens a heredoc goes on or ends. -/
theorem takeTurns_heredocOpen {heredoc : Heredoc} :
    Rule.TakeTurns ⟨cursor, .heredocOpen heredoc, options⟩ (Rule.table .heredocOpen) := by
  have hend (h : Scan.heredocOpeningEol ⟨cursor, .heredocOpen heredoc, options⟩ ≠ none) :
      Scan.heredocTrailing ⟨cursor, .heredocOpen heredoc, options⟩ = none := by
    cases htext : cursor.rest with
    | nil => simp [Scan.heredocTrailing, Scan.rest, htext, Match.nonempty]
    | cons c tail =>
        have hbreak : isLineBreak c := by
          by_contra hnot
          have hlength := lineBreakLength_eq_zero (eq_false_of_ne_true hnot) tail
          simp [heredocOpeningEol_eq, htext, hlength] at h
        simp [Scan.heredocTrailing, Scan.rest, htext, hbreak, Match.nonempty]
  simpa [Rule.TakeTurns, Rule.table, Rule.answer] using hend

theorem startsTerminator_of_heredocTerminator {heredoc : Heredoc}
    (h : Scan.heredocTerminator ⟨cursor, .heredocBody heredoc, options⟩ ≠ none) :
    cursor.startsTerminator heredoc.quote := by
  simp only [Scan.heredocTerminator, Scan.rest] at h
  split at h
  · next hstart =>
      split at h
      · exact absurd rfl h
      · next width hwidth => simp [Cursor.startsTerminator, hstart, hwidth]
  · exact absurd rfl h

/-- The line that closes a heredoc begins with its indentation or with the quote. -/
theorem exists_of_startsTerminator {quote : Char} (h : cursor.startsTerminator quote) :
    ∃ c tail, cursor.rest = c :: tail ∧ (isIndent c ∨ c = quote) := by
  obtain ⟨-, hcloses⟩ := Bool.and_eq_true_iff.mp h
  obtain ⟨width, hwidth⟩ := Option.isSome_iff_exists.mp hcloses
  obtain ⟨-, tail, htext⟩ := eq_of_terminatorIndent? hwidth
  cases hindent : cursor.rest.takeWhile isIndent with
  | nil =>
      rw [hindent] at htext
      exact ⟨quote, _, htext, .inr rfl⟩
  | cons c others =>
      rw [hindent] at htext
      have hc : c ∈ cursor.rest.takeWhile isIndent := by simp [hindent]
      exact ⟨c, _, htext, .inl (List.mem_takeWhile_imp hc)⟩

theorem eol_eq_none {c : Char} {tail : List Char} (hrest : cursor.rest = c :: tail)
    (hc : isLineBreak c = false) : Scan.eol ⟨cursor, mode, options⟩ = none := by
  simp [Scan.eol, Scan.rest, hrest, lineBreakLength_eq_zero hc, Match.nonempty]

theorem heredocLine_eq_none {heredoc : Heredoc}
    (h : lineReach heredoc.interpolating cursor.rest = 0) :
    Scan.heredocLine ⟨cursor, .heredocBody heredoc, options⟩ = none := by
  simp [heredocLine_eq, h]

/-- A line of a heredoc closes it, or begins with a break, with an interpolation or with text. -/
theorem takeTurns_heredocBody {heredoc : Heredoc}
    (hdelimited : Mode.IsDelimited (.heredocBody heredoc)) :
    Rule.TakeTurns ⟨cursor, .heredocBody heredoc, options⟩ (Rule.table .heredocBody) := by
  obtain ⟨hhash, hbreak⟩ := hdelimited
  have hclose (h : Scan.heredocTerminator ⟨cursor, .heredocBody heredoc, options⟩ ≠ none) :
      Scan.eol ⟨cursor, .heredocBody heredoc, options⟩ = none ∧
        Scan.interpolationStart ⟨cursor, .heredocBody heredoc, options⟩ = none ∧
        Scan.heredocLine ⟨cursor, .heredocBody heredoc, options⟩ = none := by
    have hcloses := startsTerminator_of_heredocTerminator h
    obtain ⟨c, tail, htext, hc⟩ := exists_of_startsTerminator hcloses
    have hnot : isLineBreak c = false ∧ c ≠ '#' := by
      rcases hc with hindent | rfl
      · rcases Bool.or_eq_true_iff.mp hindent with heq | heq <;> rw [eq_of_beq heq] <;> decide
      · exact ⟨hbreak, hhash⟩
    refine ⟨eol_eq_none htext hnot.1, interpolationStart_eq_none ?_, ?_⟩
    · intro behind hbehind
      rw [htext] at hbehind
      exact hnot.2 (List.cons.inj hbehind).1
    · rw [heredocLine_eq, if_pos hcloses]
  have hend (h : Scan.eol ⟨cursor, .heredocBody heredoc, options⟩ ≠ none) :
      Scan.interpolationStart ⟨cursor, .heredocBody heredoc, options⟩ = none ∧
        Scan.heredocLine ⟨cursor, .heredocBody heredoc, options⟩ = none := by
    cases htext : cursor.rest with
    | nil => simp [Scan.eol, Scan.rest, htext, lineBreakLength, Match.nonempty] at h
    | cons c tail =>
        have hc : isLineBreak c := by
          by_contra hnot
          exact h (eol_eq_none htext (eq_false_of_ne_true hnot))
        refine ⟨interpolationStart_eq_none ?_, heredocLine_eq_none ?_⟩
        · intro behind hbehind
          obtain rfl : c = '#' := (List.cons.inj (htext.symm.trans hbehind)).1
          exact absurd hc (by decide)
        · rw [htext]
          unfold lineReach
          exact if_pos hc
  have hstart (h : Scan.interpolationStart ⟨cursor, .heredocBody heredoc, options⟩ ≠ none) :
      Scan.heredocLine ⟨cursor, .heredocBody heredoc, options⟩ = none := by
    obtain ⟨found, hfound⟩ := Option.ne_none_iff_exists'.mp h
    obtain ⟨-, hinterpolating, tail, htext⟩ := interpolationStart_eq_some hfound
    replace hinterpolating : heredoc.interpolating = true := hinterpolating
    refine heredocLine_eq_none ?_
    simp [htext, lineReach, hinterpolating, isLineBreak]
  simpa [Rule.TakeTurns, Rule.table, Rule.answer] using
    ⟨⟨fun h => (hclose h).1, fun h => (hclose h).2.1, fun h => (hclose h).2.2⟩,
      ⟨fun h => (hend h).1, fun h => (hend h).2⟩, hstart⟩

/-! ## Rearranged tables -/

/-- The modes in which the text of a literal is read. -/
def ModeId.isText : ModeId → Bool
  | .group | .heredocOpen | .heredocBody => true
  | _ => false

theorem takeTurns_of_isText (cursor : Cursor) (options : Options) (htext : mode.id.isText)
    (hdelimited : mode.IsDelimited) :
    Rule.TakeTurns ⟨cursor, mode, options⟩ (Rule.table mode.id) := by
  cases mode with
  | group group => exact takeTurns_group hdelimited
  | heredocOpen heredoc => exact takeTurns_heredocOpen
  | heredocBody heredoc => exact takeTurns_heredocBody hdelimited
  | _ => simp [Mode.id, ModeId.isText] at htext

theorem exists_answer_of_isText (options : Options) (htext : mode.id.isText)
    (hrest : cursor.rest ≠ []) :
    ∃ rule ∈ Rule.table mode.id, Rule.answer rule ⟨cursor, mode, options⟩ ≠ none := by
  cases mode with
  | group group => exact group_answers options group hrest
  | heredocOpen heredoc => exact heredocOpen_answers options heredoc hrest
  | heredocBody heredoc => exact heredocBody_answers options heredoc hrest
  | _ => simp [Mode.id, ModeId.isText] at htext

/-- A heredoc opens behind the letter of a sigil with three characters, anything else with one. -/
theorem eq_of_sigilDelimiter_ties {rule other : Rule} {found tied : Match} {interpolating : Bool}
    (hmem : rule ∈ Rule.table .sigilDelimiter) (hother : other ∈ Rule.table .sigilDelimiter)
    (hfound : rule.answer ⟨cursor, .sigilDelimiter interpolating, options⟩ = some found)
    (htied : other.answer ⟨cursor, .sigilDelimiter interpolating, options⟩ = some tied)
    (hextent : tied.extent = found.extent) : rule = other := by
  have hthree {found : Match} (h : Scan.sigilHeredoc
      ⟨cursor, .sigilDelimiter interpolating, options⟩ = some found) : found.extent = 3 := by
    unfold Scan.sigilHeredoc at h
    grind [Match.moving]
  have hone {found : Match} (h : Scan.sigilDelimiter
      ⟨cursor, .sigilDelimiter interpolating, options⟩ = some found) : found.extent = 1 := by
    unfold Scan.sigilDelimiter at h
    grind [Match.moving]
  simp only [Rule.table, List.mem_cons, List.not_mem_nil, or_false] at hmem hother
  rcases hmem with rfl | rfl <;> rcases hother with rfl | rfl
  · rfl
  · simp [hthree hfound, hone htied] at hextent
  · simp [hone hfound, hthree htied] at hextent
  · rfl

/-- Rules of one table that reach equally far are told apart by the order of the two pairs. -/
theorem precedes_of_ties {rule other : Rule} {found tied : Match} (hdelimited : mode.IsDelimited)
    (hmem : rule ∈ Rule.table mode.id) (hother : other ∈ Rule.table mode.id)
    (hfound : rule.answer ⟨cursor, mode, options⟩ = some found)
    (htied : other.answer ⟨cursor, mode, options⟩ = some tied)
    (hextent : tied.extent = found.extent) :
    rule = other ∨ rule.precedes other ∨ other.precedes rule := by
  by_cases htext : mode.id.isText
  · exact .inl ((takeTurns_of_isText cursor options htext hdelimited).eq_of_answers rule hmem
      other hother (by simp [hfound]) (by simp [htied]))
  · cases mode with
    | initial => exact Rule.precedes_of_code hmem hother hfound htied hextent
    | interpolation depth =>
        replace hmem : rule = .interpolationBrace ∨ rule ∈ Rule.code := by
          simpa [Mode.id, Rule.table] using hmem
        replace hother : other = .interpolationBrace ∨ other ∈ Rule.code := by
          simpa [Mode.id, Rule.table] using hother
        rcases hmem with rfl | hmem <;> rcases hother with rfl | hother
        · exact .inl rfl
        · obtain rfl := Rule.eq_punctuation_of_interpolationBrace hother hfound htied
          exact .inr (.inl rfl)
        · obtain rfl := Rule.eq_punctuation_of_interpolationBrace hmem htied hfound
          exact .inr (.inr rfl)
        · exact Rule.precedes_of_code hmem hother hfound htied hextent
    | sigilDelimiter interpolating =>
        exact .inl (eq_of_sigilDelimiter_ties hmem hother hfound htied hextent)
    | sigilName | sigilModifiers =>
        exact .inl ((List.mem_singleton.mp hmem).trans (List.mem_singleton.mp hother).symm)
    | _ => simp [Mode.id, ModeId.isText] at htext

/-- **The order of the rules matters for two pairs only.**  In every mode that a lexer comes to from
plain code, at every place of any text, a table in which reserved words stay in front of identifiers
and counted braces in front of punctuation selects what the table of the mode selects.  In the text
of a literal the order does not matter at all: as long as characters are left, exactly one rule
answers. -/
theorem longest_rearranged (hmode : mode.IsReached) (cursor : Cursor) (options : Options)
    {rules : List Rule} (hperm : rules.Perm (Rule.table mode.id)) (hkeeps : Rule.KeepsOrder rules) :
    longest (fun rule => Rule.answer rule ⟨cursor, mode, options⟩) rules =
        longest (fun rule => Rule.answer rule ⟨cursor, mode, options⟩) (Rule.table mode.id) ∧
      (mode.id.isText → cursor.rest ≠ [] →
        ∃! rule, rule ∈ Rule.table mode.id ∧
          Rule.answer rule ⟨cursor, mode, options⟩ ≠ none) := by
  have hdelimited := hmode.isDelimited
  refine ⟨longest_perm hperm ?_ hkeeps (Rule.keepsOrder_table mode.id), fun htext hrest => ?_⟩
  · exact fun rule hmem other hother found tied hfound htied hextent =>
      precedes_of_ties hdelimited hmem hother hfound htied hextent
  · obtain ⟨rule, hmem, hanswer⟩ := exists_answer_of_isText options htext hrest
    refine ⟨rule, ⟨hmem, hanswer⟩, fun other hother => ?_⟩
    exact (takeTurns_of_isText cursor options htext hdelimited).eq_of_answers other hother.1 rule
      hmem hother.2 hanswer

theorem longest_rearranged_interpolation_group :
    (Mode.interpolation 0).IsReached ∧ (Mode.group (Group.quoted .string '"')).IsReached ∧
      longest (fun rule => Rule.answer rule
          ⟨⟨[], "end\x7d".toList⟩, .interpolation 0, {}⟩)
          (.interpolationBrace :: .keyword :: (Rule.code.erase .keyword).reverse) =
        some (Match.plain .keyword 3) ∧
      ∃! rule, rule ∈ Rule.table .group ∧
        Rule.answer rule ⟨⟨[], "#".toList⟩, .group (Group.quoted .string '"'), {}⟩ ≠ none := by
  have hcode : (Mode.interpolation 0).IsReached :=
    Mode.isReached_of_pull "\"#\x7b".toList {} 2 (by decide +kernel)
  have hgroup : (Mode.group (Group.quoted .string '"')).IsReached :=
    Mode.isReached_of_pull "\"".toList {} 1 (by decide +kernel)
  refine ⟨hcode, hgroup, ?_, ?_⟩
  · refine (longest_rearranged hcode ⟨[], "end\x7d".toList⟩ {} ?_ ?_).1.trans ?_
    · decide +kernel
    · unfold Rule.KeepsOrder
      decide +kernel
    · decide +kernel
  · refine (longest_rearranged hgroup ⟨[], "#".toList⟩ {} (List.Perm.refl _)
      (Rule.keepsOrder_table _)).2 rfl (by decide)

/-- With identifiers in front a reserved word would be one of them. -/
example : longest (fun rule => Rule.answer rule ⟨⟨[], "end".toList⟩, .initial, {}⟩)
    Rule.code.reverse = some (Match.plain .identifier 3) := by
  decide +kernel

end

end ElixirLexer
