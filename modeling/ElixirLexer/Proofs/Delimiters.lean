import ElixirLexer.Proofs.FullCounters
import ElixirLexer.Proofs.Restart

/-!
# Literals between single delimiters

How a string, a character list or a sigil is read in code: what opens it, its body in one piece, and
what closes it (`Lexer.Reads.literal`).  This and the grammar of bodies are put together in
`groupBody_grammar`, for counters of a fixed width.  The grammar is not kept where a full counter
would have to count one more opener (`not_groupBody_grammar_full`).

Nothing is said here about literals whose body is interrupted by interpolations, nor about the
letters behind a sigil.
-/

namespace ElixirLexer

/-! ## The delimiters of literals -/

/-- What plain code writes in front of the body of a group. -/
inductive Group.OpenedBy : Group → List Char → Prop
  | sigil {letter opener : Char} (hletter : letter.isAlpha) (hopener : isSigilDelimiter opener) :
      (Group.sigil opener letter.isLower).OpenedBy ['~', letter, opener]
  | quote {quote : Char} {literal : Literal} (hquote : quotedLiteral? quote = some literal) :
      (Group.quoted literal quote).OpenedBy [quote]

/-- No closer escapes, and none begins or continues an interpolation. -/
theorem closingDelimiter_ne {opener : Char} (h : isSigilDelimiter opener) :
    closingDelimiter opener ≠ '\\' ∧ closingDelimiter opener ≠ '#' ∧
      closingDelimiter opener ≠ '{' := by
  simp only [isSigilDelimiter, List.contains_eq_mem, List.mem_cons, List.not_mem_nil, or_false,
    decide_eq_true_eq] at h
  rcases h with rfl | rfl | rfl | rfl | rfl | rfl | rfl | rfl <;> decide

namespace Group.OpenedBy

variable {group : Group} {opening : List Char}

theorem depth_eq (h : group.OpenedBy opening) : group.depth = 0 := by
  cases h <;> rfl

theorem closer_ne (h : group.OpenedBy opening) :
    group.closer ≠ '\\' ∧ group.closer ≠ '#' ∧ group.closer ≠ '{' := by
  cases h with
  | sigil hletter hopener => exact closingDelimiter_ne hopener
  | quote hquote =>
      rw [show Group.closer (.quoted _ _) = closingDelimiter _ from
        (closingDelimiter_of_quotedLiteral? hquote).symm]
      exact closingDelimiter_ne (isSigilDelimiter_of_quotedLiteral? hquote)

end Group.OpenedBy

theorem Literal.kinds_ne_badCharacter (literal : Literal) :
    literal.promoterKind ≠ .badCharacter ∧ literal.bodyKind ≠ .badCharacter ∧
      literal.terminatorKind ≠ .badCharacter := by
  cases literal <;> simp [promoterKind, bodyKind, terminatorKind]

/-- The tokens in front of the body of a literal that begins at `start`. -/
def Literal.openingTokens (start : Nat) : Literal → List Token
  | .sigil => [⟨.tilde, ⟨start, 1⟩, .sigilName, 0⟩,
      ⟨.sigilName, ⟨start + 1, 1⟩, .sigilDelimiter, 0⟩,
      ⟨.sigilPromoter, ⟨start + 2, 1⟩, .group, 0⟩]
  | literal => [⟨literal.promoterKind, ⟨start, 1⟩, .group, 0⟩]

/-- The tokens of a body of `length` characters that begins at `start`, and of the closer behind
which `state` is in effect. -/
def Literal.closingTokens (literal : Literal) (start length : Nat) (state : ModeId) : List Token :=
  (if length = 0 then [] else [⟨literal.bodyKind, ⟨start, length⟩, .group, 0⟩]) ++
    [⟨literal.terminatorKind, ⟨start + length, 1⟩, state, 0⟩]

/-- What closes a literal cannot be the third of three quotation marks that open a heredoc. -/
theorem Group.Holds.beginsWithMarker_eq_false {group : Group} {opening body : List Char}
    (h : group.Holds body) (hopening : group.OpenedBy opening)
    (hquote : (quotedLiteral? group.opener).isSome) :
    beginsWithMarker group.opener (group.opener :: body ++ [group.closer]) = false := by
  have hcloser : group.closer = group.opener := by
    obtain ⟨literal, hliteral⟩ := Option.isSome_iff_exists.mp hquote
    cases hopening with
    | sigil hletter hopener => exact closingDelimiter_of_quotedLiteral? hliteral
    | quote _ => rfl
  rw [Bool.eq_false_iff]
  intro hmarker
  obtain ⟨tail, htail⟩ := beginsWithMarker_iff.mp hmarker
  cases body with
  | nil => simp at htail
  | cons c others =>
      obtain rfl : c = group.opener := (List.cons.inj (List.cons.inj htail).2).1
      have hfirst := h.opened 0
      rw [← hcloser, bare_cons hopening.closer_ne.1] at hfirst
      simp at hfirst

/-- The tokens of a literal that begins at `start`, with `opening` characters in front of its body.
-/
def Literal.tokens (literal : Literal) (start opening length : Nat) (state : ModeId) : List Token :=
  literal.openingTokens start ++ literal.closingTokens (start + opening) length state

/-- The stack behind a literal that began at `openedAt`: a sigil waits for its modifiers if a letter
follows. -/
def Stack.behind (stack : Stack) (literal : Literal) (openedAt : Nat) (tail : List Char) : Stack :=
  if literal = .sigil ∧ tail.head?.any Char.isAlpha then stack.push ⟨.sigilModifiers, openedAt⟩
  else stack

theorem Stack.apply_closing (stack : Stack) (frame : Frame) (literal : Literal) (tail : List Char)
    (offset : Nat) : (stack.push frame).apply (closing literal tail) offset =
      .ok (stack.behind literal frame.openedAt tail) := by
  unfold closing Stack.behind
  split <;> rfl

/-! ## Classification around a body -/

theorem operatorLength?_le_three {text : List Char} {length : Nat}
    (h : operatorLength? text = some length) : length ≤ 3 := by
  obtain ⟨operator, hoperator, rfl⟩ := List.mem_map.mp (List.max?_mem h)
  have hshort : ∀ operator ∈ operators, operator.length ≤ 3 := by decide
  exact hshort operator (List.mem_filter.mp hoperator).1

section

variable {before tail : List Char} {options : Options} {found : Match}

/-- A tilde in front of a letter and a delimiter opens a sigil: no operator reaches further. -/
theorem classify_sigilOpening {letter opener : Char} (hletter : letter.isAlpha)
    (hopener : isSigilDelimiter opener) :
    classify ⟨before, '~' :: letter :: opener :: tail⟩ .initial options =
      .emit ⟨.tilde, 1, 3, 0, .push .sigilName⟩ := by
  have hrules : Rule.code.filter (Rule.canBegin '~') = [.sigilOpening, .operator] := by
    decide +kernel
  have hsigil : Scan.sigilOpening ⟨⟨before, '~' :: letter :: opener :: tail⟩, .initial, options⟩ =
      some ⟨.tilde, 1, 3, 0, .push .sigilName⟩ := by
    simp [Scan.sigilOpening, Scan.rest, hletter, hopener]
  unfold classify
  simp only [Mode.id, Rule.table]
  rw [Rule.longest_code _ _ rfl, hrules, longest_cons, longest_cons, longest_nil,
    Match.prefer_none]
  simp only [Rule.answer, hsigil, Scan.operator, Scan.rest]
  cases hoperator : operatorLength? ('~' :: letter :: opener :: tail) with
  | none => simp
  | some length =>
      have hle := operatorLength?_le_three hoperator
      simp [Match.some_prefer_some, Match.plain, hle]

/-- A quotation mark that does not open a heredoc opens a string or a character list. -/
theorem classify_quoteOpening {quote : Char} {literal : Literal}
    (hquote : quotedLiteral? quote = some literal)
    (hsingle : beginsWithMarker quote (quote :: tail) = false) :
    classify ⟨before, quote :: tail⟩ .initial options = .emit
      (Match.moving literal.promoterKind 1 (.push (.group (Group.quoted literal quote)))) := by
  have hstring : Rule.code.filter (Rule.canBegin '"') = [.heredocOpening, .stringOpening] := by
    decide +kernel
  have hcharList : Rule.code.filter (Rule.canBegin '\'') = [.heredocOpening, .charListOpening] := by
    decide +kernel
  unfold classify
  simp only [Mode.id, Rule.table]
  rw [Rule.longest_code _ _ rfl]
  rcases eq_of_quotedLiteral? hquote with ⟨rfl, rfl⟩ | ⟨rfl, rfl⟩
  · simp [hstring, longest_cons, Rule.answer, Scan.heredocOpening, Scan.stringOpening, Scan.rest,
      hquote, hsingle, Literal.promoterKind]
  · simp [hcharList, longest_cons, Rule.answer, Scan.heredocOpening, Scan.charListOpening,
      Scan.rest, hquote, hsingle, Literal.promoterKind]

theorem classify_sigilName {letter : Char} (hletter : letter.isAlpha) :
    classify ⟨before, letter :: tail⟩ .sigilName options =
      .emit (Match.moving .sigilName 1 (.replace (.sigilDelimiter letter.isLower))) := by
  simp [classify, Mode.id, Rule.table, longest_cons, Rule.answer, Scan.sigilName, Scan.rest,
    hletter]

theorem classify_sigilDelimiter {opener : Char} {interpolating : Bool}
    (hopener : isSigilDelimiter opener)
    (hsingle : (quotedLiteral? opener).isSome → beginsWithMarker opener (opener :: tail) = false) :
    classify ⟨before, opener :: tail⟩ (.sigilDelimiter interpolating) options =
      .emit (Match.moving .sigilPromoter 1
        (.replace (.group (Group.sigil opener interpolating)))) := by
  have hheredoc : ¬ ((quotedLiteral? opener).isSome ∧
      beginsWithMarker opener (opener :: tail) = true) := by
    rintro ⟨hquote, hmarker⟩
    simp [hsingle hquote] at hmarker
  simp [classify, Mode.id, Rule.table, longest_cons, Rule.answer, Scan.sigilHeredoc,
    Scan.sigilDelimiter, Scan.rest, hopener, hheredoc]

end

/-- The readings inside a group. -/
theorem Reading.group_cases {cursor : Cursor} {group : Group}
    (h : Reading cursor (.group group) found) :
    (∃ tail, group.depth = 0 ∧ cursor.rest = group.closer :: tail ∧
      found = Match.moving group.literal.terminatorKind 1 (closing group.literal tail)) ∨
    (0 < (bodyReach group group.depth cursor.rest).length ∧
      found = Match.moving group.literal.bodyKind (bodyReach group group.depth cursor.rest).length
        (group.deepened (bodyReach group group.depth cursor.rest).depth)) ∨
    ∃ tail, group.interpolating ∧ cursor.rest = '#' :: '{' :: tail ∧
      found = Match.moving .interpolationStart 2 (.push (.interpolation 0)) := by
  cases h with
  | groupTerminator hdepth hrest => exact .inl ⟨_, hdepth, hrest, rfl⟩
  | groupBody hpos => exact .inr (.inl ⟨hpos, rfl⟩)
  | groupInterpolation hinterpolating hrest => exact .inr (.inr ⟨_, hinterpolating, hrest, rfl⟩)
  | plain hmode | badCharacter hmode | heredocOpening hmode | quoteOpening hmode
  | sigilOpening hmode => simp [Mode.isCode] at hmode

/-- Between its delimiters a body is read in one piece, and an empty one is not read at all. -/
theorem Group.Holds.classify_eq {group : Group} {opening body : List Char}
    (hholds : group.Holds body) (hopening : group.OpenedBy opening) :
    classify ⟨before, body ++ group.closer :: tail⟩ (.group group) options =
      .emit (if body = [] then
          Match.moving group.literal.terminatorKind 1 (closing group.literal tail)
        else Match.plain group.literal.bodyKind body.length) := by
  obtain ⟨hescape, hhash, hbrace⟩ := hopening.closer_ne
  have hreach := hholds.bodyReach_eq hescape hbrace tail
  obtain ⟨found, hclass, hreading⟩ : ∃ found,
      classify ⟨before, body ++ group.closer :: tail⟩ (.group group) options = .emit found ∧
        Reading ⟨before, body ++ group.closer :: tail⟩ (.group group) found :=
    exists_reading options (by simp) rfl
  rw [hclass]
  have hcases := hreading.group_cases
  rw [hopening.depth_eq, hreach] at hcases
  cases body with
  | nil =>
      rcases hcases with ⟨behind, -, hrest, rfl⟩ | ⟨hpos, -⟩ | ⟨behind, -, hrest, -⟩
      · obtain rfl : tail = behind := (List.cons.inj hrest).2
        rfl
      · exact absurd hpos (Nat.lt_irrefl 0)
      · exact absurd (List.cons.inj hrest).1 hhash
  | cons c others =>
      have hopen := hholds.not_endsAt hbrace tail (Nat.succ_pos others.length)
      rw [if_neg (List.cons_ne_nil _ _)]
      rcases hcases with ⟨behind, -, hrest, -⟩ | ⟨-, rfl⟩ | ⟨behind, hinterpolating, hrest, -⟩
      · replace hrest : c :: others ++ group.closer :: tail = group.closer :: behind := hrest
        rw [hrest, Group.endsAt_zero hescape] at hopen
        exact absurd (.inr ⟨rfl, rfl⟩) hopen
      · rw [Group.deepened, hopening.depth_eq, if_pos rfl]
        rfl
      · replace hrest : c :: others ++ group.closer :: tail = '#' :: '{' :: behind := hrest
        rw [hrest, Group.endsAt_zero (by decide)] at hopen
        exact absurd (.inl ⟨hinterpolating, rfl, rfl⟩) hopen

/-! ## Reading a literal -/

namespace Lexer

/-- A match that is no bad character leaves the reports alone. -/
theorem Reads.of_classify_of_ne (start : Lexer) {found : Match} {stack : Stack}
    (hrest : start.cursor.rest ≠ []) (hkind : found.kind ≠ .badCharacter)
    (h : classify start.cursor start.stack.top.mode start.options = .emit found)
    (happly : start.stack.apply found.transition start.offset = .ok stack) :
    Reads start [⟨found.kind, ⟨start.offset, found.length⟩, stack.top.mode.id, found.indent⟩]
      { start with cursor := start.cursor.skip found.length, stack } := by
  have hreads := Reads.of_classify start hrest h happly
  rwa [badCharacters, if_neg (by simp [hkind]), List.append_nil] at hreads

section

variable {start : Lexer} {group : Group} {opens body inner tail : List Char} {stack : Stack}
  {openedAt : Nat}

theorem Reads.opening (hopening : group.OpenedBy opens)
    (hmode : start.stack.top.mode.isCode) (hrest : start.cursor.rest = opens ++ inner)
    (hsingle : (quotedLiteral? group.opener).isSome →
      beginsWithMarker group.opener (group.opener :: inner) = false) :
    Reads start (group.literal.openingTokens start.offset)
      { start with
        cursor := start.cursor.skip opens.length
        stack := start.stack.push ⟨.group group, start.offset⟩ } := by
  obtain ⟨⟨before, rest⟩, stack, options, diagnostics, finished⟩ := start
  obtain rfl : rest = opens ++ inner := hrest
  cases hopening with
  | @sigil letter opener hletter hopener =>
      have htilde := Reads.of_classify_of_ne
        ⟨⟨before, '~' :: letter :: opener :: inner⟩, stack, options, diagnostics, finished⟩
        (List.cons_ne_nil _ _) (by simp)
        (classify_of_isCode hmode (List.cons_ne_nil _ _) (classify_sigilOpening hletter hopener)
          (by simp)) rfl
      have hname := Reads.of_classify_of_ne
        ⟨⟨'~' :: before, letter :: opener :: inner⟩, stack.push ⟨.sigilName, before.length⟩,
          options, diagnostics, finished⟩
        (List.cons_ne_nil _ _) (by simp [Match.moving]) (classify_sigilName hletter) rfl
      have hpromoter := Reads.of_classify_of_ne
        ⟨⟨letter :: '~' :: before, opener :: inner⟩,
          stack.push ⟨.sigilDelimiter letter.isLower, before.length⟩, options, diagnostics,
          finished⟩
        (List.cons_ne_nil _ _) (by simp [Match.moving])
        (classify_sigilDelimiter hopener hsingle) rfl
      exact (htilde.trans hname).trans hpromoter
  | @quote quote literal hquote =>
      have hkind : (Match.moving literal.promoterKind 1
          (.push (.group (Group.quoted literal quote)))).kind ≠ .openBrace ∧
            literal.promoterKind ≠ .closeBrace ∧ literal.promoterKind ≠ .badCharacter := by
        cases literal <;> simp [Match.moving, Literal.promoterKind]
      have hliteral := ne_sigil_of_quotedLiteral? hquote
      have hpromoter := Reads.of_classify_of_ne
        ⟨⟨before, quote :: inner⟩, stack, options, diagnostics, finished⟩
        (List.cons_ne_nil _ _) hkind.2.2
        (classify_of_isCode hmode (List.cons_ne_nil _ _)
          (classify_quoteOpening hquote (hsingle (by simp [hquote, Group.quoted])))
          ⟨hkind.1, hkind.2.1⟩) rfl
      cases literal with
      | sigil => exact absurd rfl hliteral
      | string | charList => exact hpromoter

/-- A body is read whole, and then its closer. -/
theorem Reads.closing (hopening : group.OpenedBy opens) (hholds : group.Holds body)
    (hstack : start.stack = stack.push ⟨.group group, openedAt⟩)
    (hrest : start.cursor.rest = body ++ group.closer :: tail) :
    Reads start (group.literal.closingTokens start.offset body.length
        (stack.behind group.literal openedAt tail).top.mode.id)
      { start with
        cursor := start.cursor.skip (body.length + 1)
        stack := stack.behind group.literal openedAt tail } := by
  obtain ⟨⟨before, rest⟩, _, options, diagnostics, finished⟩ := start
  obtain rfl : rest = body ++ group.closer :: tail := hrest
  subst hstack
  obtain ⟨-, hbodyKind, hterminatorKind⟩ := group.literal.kinds_ne_badCharacter
  have hterminator (before : List Char) := Reads.of_classify_of_ne
    ⟨⟨before, group.closer :: tail⟩, stack.push ⟨.group group, openedAt⟩, options, diagnostics,
      finished⟩ (List.cons_ne_nil _ _) hterminatorKind (Group.Holds.nil.classify_eq hopening)
    (stack.apply_closing _ _ _ _)
  cases body with
  | nil => exact hterminator before
  | cons c others =>
      have hclass : classify ⟨before, c :: others ++ group.closer :: tail⟩ (.group group) options =
          _ := hholds.classify_eq hopening
      rw [if_neg (List.cons_ne_nil _ _)] at hclass
      have hbody := Reads.of_classify_of_ne
        ⟨⟨before, c :: others ++ group.closer :: tail⟩, stack.push ⟨.group group, openedAt⟩,
          options, diagnostics, finished⟩ (List.cons_ne_nil _ _) hbodyKind hclass rfl
      have hskip : Cursor.skip ⟨before, c :: others ++ group.closer :: tail⟩ (c :: others).length =
          ⟨(c :: others).reverse ++ before, group.closer :: tail⟩ := by
        rw [Cursor.skip, List.take_left, List.drop_left]
      have hoffset : ((c :: others).reverse ++ before).length =
          before.length + (c :: others).length := by
        rw [List.length_append, List.length_reverse, Nat.add_comm]
      have hlast := hterminator ((c :: others).reverse ++ before)
      simp only [Lexer.offset, Cursor.offset, hoffset, Match.plain, hskip] at hlast hbody
      rw [← Cursor.skip_skip, hskip]
      exact hbody.trans hlast

/-- A literal is read as its delimiters and its body. -/
theorem Reads.literal (hopening : group.OpenedBy opens) (hholds : group.Holds body)
    (hmode : start.stack.top.mode.isCode)
    (hrest : start.cursor.rest = opens ++ body ++ group.closer :: tail)
    (hsingle : (quotedLiteral? group.opener).isSome →
      beginsWithMarker group.opener (group.opener :: body ++ group.closer :: tail) = false) :
    Reads start
      (group.literal.tokens start.offset opens.length body.length
        (start.stack.behind group.literal start.offset tail).top.mode.id)
      { start with
        cursor := start.cursor.skip (opens.length + (body.length + 1))
        stack := start.stack.behind group.literal start.offset tail } := by
  rw [List.append_assoc] at hrest
  let middle : Lexer := { start with
    cursor := start.cursor.skip opens.length
    stack := start.stack.push ⟨.group group, start.offset⟩ }
  have hopens : Reads start _ middle := Reads.opening hopening hmode hrest hsingle
  have hinner : middle.cursor.rest = body ++ group.closer :: tail := by
    simp [middle, Cursor.skip, hrest]
  have hoffset : middle.offset = start.offset + opens.length :=
    Cursor.offset_skip (by simp [hrest])
  have hcloses := Reads.closing hopening hholds rfl hinner
  rw [hoffset] at hcloses
  rw [← Cursor.skip_skip]
  exact hopens.trans hcloses

end

end Lexer

/-! ## The grammar of delimiters -/

/-- In front of such a body a counter that holds what waits in it is not full. -/
theorem Group.Holds.not_overflows {group : Group} {opening body : List Char}
    (hholds : group.Holds body) (hopening : group.OpenedBy opening)
    (hcountable : group.Countable group.depth body body.length) (tail : List Char) :
    ¬ (Mode.group group).Overflows (body ++ group.closer :: tail) := by
  obtain ⟨hescape, -, hbrace⟩ := hopening.closer_ne
  rw [hopening.depth_eq] at hcountable
  rw [not_overflows_group, hopening.depth_eq, hholds.bodyReach_eq hescape hbrace]
  exact hcountable.append _ (Nat.le_refl _)

end ElixirLexer
