import ElixirLexer.Proofs.Answers

/-!
# Which rules of code can answer

Every rule of code begins with a character of its own class, and makes tokens of its own kinds.  So
the next character leaves only some rules to compete (`longest_code`), and the kind of a selected
match tells the rule that answered.

The rules of code do not look at the mode.  Interpolated code is therefore read as plain code is,
except that its braces are counted (`classify_interpolation`): no rule but that of punctuation
answers to a brace, and none reaches further.
-/

namespace ElixirLexer

namespace Rule

/-! ## First characters -/

/-- Whether a match of a rule of code can begin with a character. -/
def canBegin (c : Char) : Rule → Bool
  | whitespace => isBlank c || c == byteOrderMark
  | eol => isLineBreak c
  | comment => c == '#'
  | heredocOpening => (quotedLiteral? c).isSome
  | stringOpening => c == '"'
  | charListOpening => c == '\''
  | sigilOpening => c == '~'
  | charToken => c == '?'
  | number => c.isDigit
  | atom => c == ':'
  | keyword | identifier => isIdentifierStart c
  | aliasName => Unicode.isUppercase c
  | operator => operators.any fun operator => operator.head? == some c
  | punctuation => (punctuationKinds.lookup c).isSome
  | _ => false

/-- An operator that the text begins with has the first character of the text. -/
theorem operatorLength?_eq_none {c : Char} {tail : List Char}
    (h : operators.any (fun operator => operator.head? == some c) = false) :
    operatorLength? (c :: tail) = none := by
  have hnone : operators.filter (fun operator => operator.isPrefixOf (c :: tail)) = [] := by
    rw [List.filter_eq_nil_iff]
    intro operator hmem hprefix
    have hnonempty : ∀ operator ∈ operators, operator ≠ [] := by decide
    obtain ⟨first, others, rfl⟩ := List.exists_cons_of_ne_nil (hnonempty operator hmem)
    obtain ⟨rfl, -⟩ := List.cons_prefix_cons.mp (List.isPrefixOf_iff_prefix.mp hprefix)
    simpa using List.any_eq_false.mp h _ hmem
  simp [operatorLength?, hnone]

/-- A rule of code declines in front of a character that it cannot begin with. -/
theorem answer_eq_none {cursor : Cursor} {mode : Mode} {options : Options} {c : Char}
    {tail : List Char} {rule : Rule} (hrest : cursor.rest = c :: tail) (hmem : rule ∈ code)
    (hbegin : rule.canBegin c = false) : rule.answer ⟨cursor, mode, options⟩ = none := by
  cases rule with
  | whitespace =>
      simp only [canBegin, Bool.or_eq_false_iff, beq_eq_false_iff_ne] at hbegin
      simp [answer, Scan.whitespace, Scan.hasByteOrderMark, Scan.rest, hrest, hbegin,
        Match.nonempty]
  | eol =>
      simp [answer, Scan.eol, Scan.rest, hrest, lineBreakLength_eq_zero hbegin, Match.nonempty]
  | comment | stringOpening | charListOpening =>
      simp only [canBegin, beq_eq_false_iff_ne] at hbegin
      simp [answer, Scan.comment, Scan.stringOpening, Scan.charListOpening, Scan.rest, hrest,
        hbegin]
  | heredocOpening =>
      simp only [canBegin, Option.isSome_eq_false_iff, Option.isNone_iff_eq_none] at hbegin
      simp [answer, Scan.heredocOpening, Scan.rest, hrest, hbegin]
  | sigilOpening =>
      simp only [canBegin, beq_eq_false_iff_ne] at hbegin
      simp only [answer, Scan.sigilOpening, Scan.rest, hrest]
      split
      · next tilde letter delimiter behind htext =>
          obtain rfl : c = tilde := (List.cons.inj htext).1
          simp [hbegin]
      · rfl
  | charToken =>
      simp only [canBegin, beq_eq_false_iff_ne] at hbegin
      cases tail <;> simp [answer, Scan.charToken, Scan.rest, hrest, charTokenLength?, hbegin]
  | number =>
      have hdigit : c.isDigit = false := hbegin
      simp [answer, Scan.number, Scan.rest, hrest, Number.length?, Number.beginsWithDigit, hdigit]
  | atom =>
      simp only [canBegin, beq_eq_false_iff_ne] at hbegin
      cases tail <;> simp [answer, Scan.atom, Scan.rest, hrest, hbegin]
  | keyword | identifier =>
      have hstart : isIdentifierStart c = false := hbegin
      simp [answer, Scan.keyword, Scan.identifier, Scan.rest, hrest, wordLength?, hstart]
  | aliasName =>
      have hupper : Unicode.isUppercase c = false := hbegin
      simp [answer, Scan.aliasName, Scan.rest, hrest, hupper]
  | operator =>
      simp [answer, Scan.operator, Scan.rest, hrest, operatorLength?_eq_none hbegin]
  | punctuation =>
      simp only [canBegin, Option.isSome_eq_false_iff, Option.isNone_iff_eq_none] at hbegin
      simp [answer, Scan.punctuation, Scan.rest, hrest, hbegin]
  | _ => simp [code] at hmem

/-- Only the rules that can begin with the next character compete. -/
theorem longest_code {cursor : Cursor} {c : Char} {tail : List Char} (mode : Mode)
    (options : Options) (hrest : cursor.rest = c :: tail) :
    longest (fun rule => answer rule ⟨cursor, mode, options⟩) code =
      longest (fun rule => answer rule ⟨cursor, mode, options⟩) (code.filter (canBegin c)) :=
  (longest_filter fun _ hmem hbegin => answer_eq_none hrest hmem hbegin).symm

/-! ## Kinds -/

/-- The kinds of the tokens that a rule of code makes. -/
def makes : Rule → List Kind
  | whitespace => [.whitespace]
  | eol => [.eol]
  | comment => [.comment]
  | heredocOpening => [.heredocPromoter]
  | stringOpening => [.stringPromoter]
  | charListOpening => [.charListPromoter]
  | sigilOpening => [.tilde]
  | charToken => [.charToken]
  | number => [.number]
  | atom => [.atom]
  | keyword => [.keyword]
  | identifier => [.identifier]
  | aliasName => [.aliasName]
  | operator => [.operator]
  | punctuation => punctuationKinds.map Prod.snd
  | _ => []

theorem kind_mem_makes {scan : Scan} {rule : Rule} {found : Match} (hmem : rule ∈ code)
    (h : rule.answer scan = some found) : found.kind ∈ rule.makes := by
  have hplain {kind : Kind} (hfound : found.IsPlain kind scan.rest.length) :
      found.kind ∈ [kind] := by
    obtain ⟨length, rfl, -⟩ := hfound
    exact List.mem_singleton_self kind
  cases rule with
  | whitespace => exact hplain (Scan.isPlain_of_whitespace h)
  | eol => exact hplain (Scan.isPlain_of_eol h)
  | comment => exact hplain (Scan.isPlain_of_comment h)
  | charToken => exact hplain (Scan.isPlain_of_charToken h)
  | number => exact hplain (Scan.isPlain_of_number h)
  | atom => exact hplain (Scan.isPlain_of_atom h)
  | keyword => exact hplain (Scan.isPlain_of_keyword h)
  | identifier => exact hplain (Scan.isPlain_of_identifier h)
  | aliasName => exact hplain (Scan.isPlain_of_aliasName h)
  | operator => exact hplain (Scan.isPlain_of_operator h)
  | punctuation =>
      obtain ⟨c, kind, hkind, -, rfl⟩ := Scan.isPlain_of_punctuation h
      exact List.mem_map.mpr ⟨_, hkind, rfl⟩
  | heredocOpening =>
      simp only [answer, Scan.heredocOpening] at h
      split at h
      · simp at h
      · split at h
        · simp at h
        · split at h
          · obtain rfl := Option.some.inj h
            exact List.mem_singleton_self _
          · simp at h
  | stringOpening | charListOpening =>
      simp only [answer, Scan.stringOpening, Scan.charListOpening] at h
      split at h
      · obtain rfl := Option.some.inj h
        exact List.mem_singleton_self _
      · simp at h
  | sigilOpening =>
      simp only [answer, Scan.sigilOpening] at h
      split at h
      · split at h
        · obtain rfl := Option.some.inj h
          exact List.mem_singleton_self _
        · simp at h
      · simp at h
  | _ => simp [code] at hmem

/-- The rules of code do not look at the mode. -/
theorem answer_mode {cursor : Cursor} {options : Options} {rule : Rule} (mode other : Mode)
    (hmem : rule ∈ code) :
    rule.answer ⟨cursor, mode, options⟩ = rule.answer ⟨cursor, other, options⟩ := by
  cases rule with
  | whitespace | eol | comment | heredocOpening | stringOpening | charListOpening | sigilOpening
  | charToken | number | atom | keyword | identifier | aliasName | operator | punctuation => rfl
  | _ => simp [code] at hmem

theorem longest_code_mode (cursor : Cursor) (options : Options) (mode other : Mode) :
    longest (fun rule => answer rule ⟨cursor, mode, options⟩) code =
      longest (fun rule => answer rule ⟨cursor, other, options⟩) code :=
  longest_congr fun _ hmem => answer_mode mode other hmem

end Rule

/-- In code only one rule makes line breaks. -/
theorem length_of_eol_of_isCode {cursor : Cursor} {mode : Mode} {options : Options} {found : Match}
    (hmode : mode.isCode) (h : longest (fun rule => Rule.answer rule ⟨cursor, mode, options⟩)
      (Rule.table mode.id) = some found)
    (hkind : found.kind = .eol) : found.length = lineBreakLength cursor.rest := by
  obtain ⟨rule, hmem, hanswer⟩ := exists_answer_of_longest h
  have hrule : rule = .interpolationBrace ∨ rule ∈ Rule.code := by
    cases mode with
    | initial => exact .inr hmem
    | interpolation depth => simpa [Mode.id, Rule.table] using hmem
    | _ => simp [Mode.isCode] at hmode
  rcases hrule with rfl | hcode
  · replace hanswer : Scan.interpolationBrace ⟨cursor, mode, options⟩ = some found := hanswer
    unfold Scan.interpolationBrace at hanswer
    grind [Match.moving]
  · have hmakes : ∀ rule ∈ Rule.code, Kind.eol ∈ rule.makes → rule = .eol := by decide
    have hfound := Rule.kind_mem_makes hcode hanswer
    rw [hkind] at hfound
    obtain rfl := hmakes rule hcode hfound
    replace hanswer : Scan.eol ⟨cursor, mode, options⟩ = some found := hanswer
    unfold Scan.eol Match.nonempty at hanswer
    split at hanswer
    · simp at hanswer
    · obtain rfl := Option.some.inj hanswer
      rfl

/-- A line break is taken as a whole, in code and in heredocs. -/
theorem length_of_eol {cursor : Cursor} {mode : Mode} {options : Options} {found : Match}
    (hrest : cursor.rest ≠ []) (h : classify cursor mode options = .emit found)
    (hkind : found.kind = .eol) : found.length = lineBreakLength cursor.rest := by
  cases reading_of_emit hrest h with
  | heredocOpeningEol hpos => rfl
  | heredocEol hpos hopen => rfl
  | plain hmode hplain hpos hle hbrace =>
      unfold classify at h
      split at h
      · next hlongest =>
          obtain rfl := Outcome.emit.inj h
          exact length_of_eol_of_isCode hmode hlongest hkind
      · split at h
        · simp at h
        · obtain rfl := (Match.mk.inj (Outcome.emit.inj h)).1
          simp [Kind.isPlain] at hplain
  | @quoteOpening mode quote literal tail hmode hquote htext hsingle =>
      cases literal <;> simp [Match.moving, Literal.promoterKind] at hkind
  | @groupTerminator group tail hdepth htext =>
      cases hliteral : group.literal <;>
        simp [Match.moving, Literal.terminatorKind, hliteral] at hkind
  | @groupBody group hpos =>
      cases hliteral : group.literal <;> simp [Match.moving, Literal.bodyKind, hliteral] at hkind
  | _ => simp [Match.plain, Match.moving] at hkind

/-! ## Braces of interpolated code -/

/-- What a match of plain code becomes in interpolated code with so many braces open. -/
def Match.counted (depth : Nat) (found : Match) : Match :=
  if found.kind = .openBrace then
    Match.moving .openBrace 1 (.replace (.interpolation (depth + 1)))
  else if found.kind = .closeBrace then
    if depth = 0 then Match.moving .interpolationEnd 1 .pop
    else Match.moving .closeBrace 1 (.replace (.interpolation (depth - 1)))
  else found

section

variable {cursor : Cursor} {mode : Mode} {options : Options} {found : Match} {tail : List Char}

/-- In front of a brace only the rule of punctuation answers. -/
theorem Rule.longest_openBrace (hrest : cursor.rest = '{' :: tail) :
    longest (fun rule => answer rule ⟨cursor, mode, options⟩) code =
      some (Match.plain .openBrace 1) := by
  have hcode : code.filter (canBegin '{') = [.punctuation] := by decide
  rw [longest_code _ _ hrest, hcode, longest_cons, longest_nil, Match.prefer_none]
  simp only [answer, Scan.punctuation, Scan.rest, hrest]
  rfl

theorem Rule.longest_closeBrace (hrest : cursor.rest = '}' :: tail) :
    longest (fun rule => answer rule ⟨cursor, mode, options⟩) code =
      some (Match.plain .closeBrace 1) := by
  have hcode : code.filter (canBegin '}') = [.punctuation] := by decide
  rw [longest_code _ _ hrest, hcode, longest_cons, longest_nil, Match.prefer_none]
  simp only [answer, Scan.punctuation, Scan.rest, hrest]
  rfl

/-- A brace is read alone, by the rule of punctuation. -/
theorem eq_plain_of_brace (hbrace : found.kind = .openBrace ∨ found.kind = .closeBrace)
    (h : longest (fun rule => Rule.answer rule ⟨cursor, mode, options⟩) Rule.code = some found) :
    found = Match.plain found.kind 1 ∧
      (cursor.rest.head? = some '{' ∨ cursor.rest.head? = some '}') := by
  obtain ⟨rule, hmem, hanswer⟩ := exists_answer_of_longest h
  have hmakes : ∀ rule ∈ Rule.code, Kind.openBrace ∈ rule.makes ∨ Kind.closeBrace ∈ rule.makes →
      rule = .punctuation := by decide
  have hmarks : ∀ entry ∈ punctuationKinds, entry.2 = .openBrace ∨ entry.2 = .closeBrace →
      entry.1 = '{' ∨ entry.1 = '}' := by decide
  have hkind := Rule.kind_mem_makes hmem hanswer
  obtain rfl : rule = .punctuation := by
    refine hmakes rule hmem ?_
    rcases hbrace with hbrace | hbrace <;> rw [hbrace] at hkind
    · exact .inl hkind
    · exact .inr hkind
  obtain ⟨c, kind, hlisted, hhead, rfl⟩ := Scan.isPlain_of_punctuation hanswer
  refine ⟨rfl, ?_⟩
  rcases hmarks _ hlisted hbrace with rfl | rfl
  · exact .inl hhead
  · exact .inr hhead

/-- Elsewhere no match of code is a brace. -/
theorem counted_eq_self {c : Char} (depth : Nat) (hrest : cursor.rest = c :: tail)
    (hopen : c ≠ '{') (hclose : c ≠ '}')
    (h : longest (fun rule => Rule.answer rule ⟨cursor, mode, options⟩) Rule.code = some found) :
    found.counted depth = found := by
  have hnot : ¬ (found.kind = .openBrace ∨ found.kind = .closeBrace) := by
    intro hbrace
    obtain ⟨-, hhead⟩ := eq_plain_of_brace hbrace h
    simp [hrest, hopen, hclose] at hhead
  rw [not_or] at hnot
  rw [Match.counted, if_neg hnot.1, if_neg hnot.2]

/-- In plain code too a brace is read alone. -/
theorem eq_plain_of_emit_brace (h : classify cursor .initial options = .emit found)
    (hbrace : found.kind = .openBrace ∨ found.kind = .closeBrace) :
    found = Match.plain found.kind 1 := by
  unfold classify at h
  split at h
  · next hlongest =>
      obtain rfl := Outcome.emit.inj h
      exact (eq_plain_of_brace hbrace hlongest).1
  · obtain rfl := Outcome.emit.inj h
    simp [Match.plain] at hbrace

/-- **Interpolated code is code in which braces are counted.** -/
theorem classify_interpolation (depth : Nat) (hrest : cursor.rest ≠ [])
    (h : classify cursor .initial options = .emit found) :
    classify cursor (.interpolation depth) options = .emit (found.counted depth) := by
  obtain ⟨c, tail, htext⟩ := List.exists_cons_of_ne_nil hrest
  have hcode := Rule.longest_code_mode cursor options (.interpolation depth) .initial
  unfold classify at h ⊢
  simp only [Mode.id, Rule.table, Mode.isTransient] at h ⊢
  rw [longest_cons, hcode]
  -- In front of a brace two rules reach equally far, and the one that counts comes first.
  by_cases hopen : c = '{'
  · subst hopen
    rw [Rule.longest_openBrace htext] at h ⊢
    obtain rfl := Outcome.emit.inj h
    simp [Rule.answer, Scan.interpolationBrace, Scan.rest, htext, Match.some_prefer_some,
      Match.counted, Match.plain, Match.moving]
  · by_cases hclose : c = '}'
    · subst hclose
      rw [Rule.longest_closeBrace htext] at h ⊢
      obtain rfl := Outcome.emit.inj h
      by_cases hdepth : depth = 0 <;>
        simp [Rule.answer, Scan.interpolationBrace, Scan.rest, htext, Match.some_prefer_some,
          Match.counted, Match.plain, Match.moving, hdepth]
    · have hnone : Rule.answer .interpolationBrace ⟨cursor, .interpolation depth, options⟩ =
          none := by
        simp [Rule.answer, Scan.interpolationBrace, Scan.rest, htext, hopen, hclose]
      rw [hnone, Match.none_prefer]
      cases hlongest : longest (fun rule => Rule.answer rule ⟨cursor, .initial, options⟩)
          Rule.code with
      | none =>
          rw [hlongest] at h
          obtain rfl := Outcome.emit.inj h
          rfl
      | some answer =>
          rw [hlongest] at h
          obtain rfl := Outcome.emit.inj h
          exact congrArg Outcome.emit (counted_eq_self depth htext hopen hclose hlongest).symm

/-- What is no brace is read in interpolated code as it is in plain code. -/
theorem classify_of_isCode (hmode : mode.isCode) (hrest : cursor.rest ≠ [])
    (h : classify cursor .initial options = .emit found)
    (hbrace : found.kind ≠ .openBrace ∧ found.kind ≠ .closeBrace) :
    classify cursor mode options = .emit found := by
  cases mode with
  | initial => exact h
  | interpolation depth =>
      rw [classify_interpolation depth hrest h, Match.counted, if_neg hbrace.1, if_neg hbrace.2]
  | _ => simp [Mode.isCode] at hmode

end

end ElixirLexer
