import ElixirLexer.Proofs.PlainRules

/-!
# What a mode can read

This file says once what can come of classifying a text in each mode: `Reading` has one constructor
for each way in which a match is found, with what the text ahead must look like for it.  A reading
takes at least one character and no more than there are, and asks for a transition that its mode
allows, whatever the context of the mode is.

A reading does not say which rule of several possible ones is selected, except where an argument
below depends on it.
-/

namespace ElixirLexer

/-! ## Vocabulary -/

/-- The modes whose table is the table of code. -/
def Mode.isCode : Mode → Bool
  | .initial | .interpolation _ => true
  | _ => false

/-- The kinds of the tokens of code that leave the stack alone, bad characters apart. -/
def Kind.isPlain : Kind → Bool
  | .whitespace | .eol | .comment | .number | .charToken | .identifier | .aliasName | .keyword
  | .atom | .operator | .semicolon | .comma | .openParen | .closeParen | .openBracket
  | .closeBracket | .openBrace | .closeBrace => true
  | _ => false

/-- The kind of the delimiter that opens a literal. -/
def Literal.promoterKind : Literal → Kind
  | .sigil => .sigilPromoter
  | .string => .stringPromoter
  | .charList => .charListPromoter

/-- What becomes of a group behind a piece of its body. -/
def Group.deepened (group : Group) (depth : Nat) : Transition :=
  if depth = group.depth then .stay else .replace (.group { group with depth })

/-- Whether a line that closes a heredoc starts at the cursor. -/
def Cursor.startsTerminator (cursor : Cursor) (quote : Char) : Bool :=
  cursor.atLineStart && (terminatorIndent? quote cursor.rest).isSome

/-- Three quotes at the head of a text, written out. -/
theorem beginsWithMarker_iff {quote : Char} {text : List Char} :
    beginsWithMarker quote text = true ↔ ∃ tail, text = quote :: quote :: quote :: tail := by
  rw [beginsWithMarker, List.isPrefixOf_iff_prefix]
  constructor
  · rintro ⟨tail, rfl⟩
    exact ⟨tail, rfl⟩
  · rintro ⟨tail, rfl⟩
    exact ⟨tail, rfl⟩

/-- The head of an interpolation, written out. -/
theorem beginsWithInterpolation_iff {text : List Char} :
    beginsWithInterpolation text = true ↔ ∃ tail, text = '#' :: '{' :: tail := by
  rw [beginsWithInterpolation, List.isPrefixOf_iff_prefix]
  constructor
  · rintro ⟨tail, rfl⟩
    exact ⟨tail, rfl⟩
  · rintro ⟨tail, rfl⟩
    exact ⟨tail, rfl⟩

/-! ## Quotation marks -/

section

variable {quote : Char} {literal : Literal}

theorem eq_of_quotedLiteral? (h : quotedLiteral? quote = some literal) :
    quote = '"' ∧ literal = .string ∨ quote = '\'' ∧ literal = .charList := by
  unfold quotedLiteral? at h
  split at h
  · next hquote => exact .inl ⟨hquote, (Option.some.inj h).symm⟩
  · split at h
    · next hquote => exact .inr ⟨hquote, (Option.some.inj h).symm⟩
    · simp at h

/-- A quotation mark may open a sigil. -/
theorem isSigilDelimiter_of_quotedLiteral? (h : quotedLiteral? quote = some literal) :
    isSigilDelimiter quote = true := by
  rcases eq_of_quotedLiteral? h with ⟨rfl, -⟩ | ⟨rfl, -⟩ <;> decide

/-- A quotation mark begins no sigil of its own. -/
theorem ne_sigil_of_quotedLiteral? (h : quotedLiteral? quote = some literal) :
    literal ≠ .sigil := by
  rcases eq_of_quotedLiteral? h with ⟨-, rfl⟩ | ⟨-, rfl⟩ <;> decide

/-- A quotation mark closes what it opens. -/
theorem closingDelimiter_of_quotedLiteral? (h : quotedLiteral? quote = some literal) :
    closingDelimiter quote = quote := by
  rcases eq_of_quotedLiteral? h with ⟨rfl, -⟩ | ⟨rfl, -⟩ <;> decide

theorem isLineBreak_of_quotedLiteral? (h : quotedLiteral? quote = some literal) :
    isLineBreak quote = false := by
  rcases eq_of_quotedLiteral? h with ⟨rfl, -⟩ | ⟨rfl, -⟩ <;> decide

end

/-! ## Transitions of ends and bodies -/

@[simp] theorem closing_ne_stay {literal : Literal} {behind : List Char} :
    closing literal behind ≠ .stay := by
  unfold closing
  split <;> simp

@[simp] theorem closing_ne_push {literal : Literal} {behind : List Char} {inner : Mode} :
    closing literal behind ≠ .push inner := by
  unfold closing
  split <;> simp

/-- A closed literal is popped, unless it is a sigil that waits for its modifiers. -/
theorem eq_of_closing_eq_replace {literal : Literal} {behind : List Char} {next : Mode}
    (h : closing literal behind = .replace next) :
    literal = .sigil ∧ behind.head?.any Char.isAlpha ∧ next = .sigilModifiers := by
  unfold closing at h
  split at h
  · next hsigil => exact ⟨hsigil.1, hsigil.2, (Transition.replace.inj h).symm⟩
  · simp at h

@[simp] theorem Group.deepened_ne_push {group : Group} {depth : Nat} {inner : Mode} :
    group.deepened depth ≠ .push inner := by
  unfold Group.deepened
  split <;> simp

@[simp] theorem Group.deepened_ne_pop {group : Group} {depth : Nat} :
    group.deepened depth ≠ .pop := by
  unfold Group.deepened
  split <;> simp

theorem Group.eq_of_deepened_eq_replace {group : Group} {depth : Nat} {next : Mode}
    (h : group.deepened depth = .replace next) : next = .group { group with depth } := by
  unfold Group.deepened at h
  split at h
  · simp at h
  · exact (Transition.replace.inj h).symm

/-! ## Readings -/

/-- What can be read at a cursor in a mode: the match, and what the text must be for it. -/
inductive Reading (cursor : Cursor) : Mode → Match → Prop
  /-- A token of code that leaves the stack alone.  Braces of interpolated code are not among
  them. -/
  | plain {mode : Mode} {kind : Kind} {length : Nat} (hmode : mode.isCode)
      (hkind : kind.isPlain) (hpos : 0 < length) (hle : length ≤ cursor.rest.length)
      (hbrace : mode = .initial ∨ kind ≠ .openBrace ∧ kind ≠ .closeBrace) :
      Reading cursor mode (Match.plain kind length)
  | badCharacter {mode : Mode} (hmode : mode.isCode) :
      Reading cursor mode (Match.plain .badCharacter 1)
  | heredocOpening {mode : Mode} {quote : Char} {literal : Literal} {tail : List Char}
      (hmode : mode.isCode) (hquote : quotedLiteral? quote = some literal)
      (hrest : cursor.rest = quote :: quote :: quote :: tail) :
      Reading cursor mode (Match.moving .heredocPromoter 3
        (.push (.heredocOpen (Heredoc.opened literal quote true))))
  | quoteOpening {mode : Mode} {quote : Char} {literal : Literal} {tail : List Char}
      (hmode : mode.isCode) (hquote : quotedLiteral? quote = some literal)
      (hrest : cursor.rest = quote :: tail)
      (hsingle : beginsWithMarker quote cursor.rest = false) :
      Reading cursor mode (Match.moving literal.promoterKind 1
        (.push (.group (Group.quoted literal quote))))
  | sigilOpening {mode : Mode} {letter delimiter : Char} {tail : List Char}
      (hmode : mode.isCode) (hrest : cursor.rest = '~' :: letter :: delimiter :: tail)
      (hletter : letter.isAlpha) (hdelimiter : isSigilDelimiter delimiter) :
      Reading cursor mode ⟨.tilde, 1, 3, 0, .push .sigilName⟩
  | openBrace {depth : Nat} {tail : List Char} (hrest : cursor.rest = '{' :: tail) :
      Reading cursor (.interpolation depth)
        (Match.moving .openBrace 1 (.replace (.interpolation (depth + 1))))
  | closeBrace {depth : Nat} {tail : List Char} (hrest : cursor.rest = '}' :: tail) :
      Reading cursor (.interpolation (depth + 1))
        (Match.moving .closeBrace 1 (.replace (.interpolation depth)))
  | interpolationEnd {tail : List Char} (hrest : cursor.rest = '}' :: tail) :
      Reading cursor (.interpolation 0) (Match.moving .interpolationEnd 1 .pop)
  | sigilName {letter : Char} {tail : List Char} (hrest : cursor.rest = letter :: tail)
      (hletter : letter.isAlpha) :
      Reading cursor .sigilName
        (Match.moving .sigilName 1 (.replace (.sigilDelimiter letter.isLower)))
  | sigilHeredoc {interpolating : Bool} {quote : Char} {literal : Literal} {tail : List Char}
      (hquote : quotedLiteral? quote = some literal)
      (hrest : cursor.rest = quote :: quote :: quote :: tail) :
      Reading cursor (.sigilDelimiter interpolating) (Match.moving .heredocPromoter 3
        (.replace (.heredocOpen (Heredoc.opened .sigil quote interpolating))))
  | sigilDelimiter {interpolating : Bool} {opener : Char} {tail : List Char}
      (hrest : cursor.rest = opener :: tail) (hopener : isSigilDelimiter opener)
      (hsingle : (quotedLiteral? opener).isSome → beginsWithMarker opener cursor.rest = false) :
      Reading cursor (.sigilDelimiter interpolating) (Match.moving .sigilPromoter 1
        (.replace (.group (Group.sigil opener interpolating))))
  | sigilModifier {letter : Char} {tail : List Char} (hrest : cursor.rest = letter :: tail)
      (hletter : letter.isAlpha) :
      Reading cursor .sigilModifiers (Match.plain .sigilModifier 1)
  | groupTerminator {group : Group} {tail : List Char} (hdepth : group.depth = 0)
      (hrest : cursor.rest = group.closer :: tail) :
      Reading cursor (.group group)
        (Match.moving group.literal.terminatorKind 1 (closing group.literal tail))
  | groupBody {group : Group} (hpos : 0 < (bodyReach group group.depth cursor.rest).length) :
      Reading cursor (.group group)
        (Match.moving group.literal.bodyKind (bodyReach group group.depth cursor.rest).length
          (group.deepened (bodyReach group group.depth cursor.rest).depth))
  | groupInterpolation {group : Group} {tail : List Char} (hinterpolating : group.interpolating)
      (hrest : cursor.rest = '#' :: '{' :: tail) :
      Reading cursor (.group group)
        (Match.moving .interpolationStart 2 (.push (.interpolation 0)))
  | heredocTrailing {heredoc : Heredoc}
      (hpos : 0 < (cursor.rest.takeWhile fun c => !isLineBreak c).length) :
      Reading cursor (.heredocOpen heredoc) (Match.plain .heredocTrailing
        (cursor.rest.takeWhile fun c => !isLineBreak c).length)
  | heredocOpeningEol {heredoc : Heredoc} (hpos : 0 < lineBreakLength cursor.rest) :
      Reading cursor (.heredocOpen heredoc) (Match.moving .eol (lineBreakLength cursor.rest)
        (.replace (.heredocBody { heredoc with
          indent := closingIndent heredoc.quote heredoc.interpolating 0 true
            (cursor.rest.drop (lineBreakLength cursor.rest)) })))
  | heredocTerminator {heredoc : Heredoc} {width : Nat} (hstart : cursor.atLineStart)
      (hwidth : terminatorIndent? heredoc.quote cursor.rest = some width) :
      Reading cursor (.heredocBody heredoc) ⟨.heredocTerminator, width + 3, width + 3, width,
        closing heredoc.literal (cursor.rest.drop (width + 3))⟩
  | heredocEol {heredoc : Heredoc} (hpos : 0 < lineBreakLength cursor.rest)
      (hopen : cursor.startsTerminator heredoc.quote = false) :
      Reading cursor (.heredocBody heredoc) (Match.plain .eol (lineBreakLength cursor.rest))
  | heredocInterpolation {heredoc : Heredoc} {tail : List Char}
      (hinterpolating : heredoc.interpolating) (hrest : cursor.rest = '#' :: '{' :: tail)
      (hopen : cursor.startsTerminator heredoc.quote = false) :
      Reading cursor (.heredocBody heredoc)
        (Match.moving .interpolationStart 2 (.push (.interpolation 0)))
  | heredocLine {heredoc : Heredoc}
      (hpos : 0 < lineReach heredoc.interpolating cursor.rest)
      (hopen : cursor.startsTerminator heredoc.quote = false) :
      Reading cursor (.heredocBody heredoc)
        ⟨.heredocLine, lineReach heredoc.interpolating cursor.rest,
          lineReach heredoc.interpolating cursor.rest,
          if cursor.atLineStart then
            indentWidth (cursor.rest.take
              (min (lineReach heredoc.interpolating cursor.rest) heredoc.indent))
          else 0,
          .stay⟩

/-- The places in front of which a mode gives way. -/
inductive GivesWay (cursor : Cursor) : Mode → Prop
  | sigilName (h : cursor.rest.head?.any Char.isAlpha = false) : GivesWay cursor .sigilName
  | sigilDelimiter {interpolating : Bool} (h : cursor.rest.head?.any isSigilDelimiter = false) :
      GivesWay cursor (.sigilDelimiter interpolating)
  | sigilModifiers (h : cursor.rest.head?.any Char.isAlpha = false) :
      GivesWay cursor .sigilModifiers

/-! ## Bounds -/

/-- A match can be consumed where the given number of characters is left. -/
structure Match.Fits (found : Match) (remaining : Nat) : Prop where
  pos : 0 < found.length
  length_le : found.length ≤ found.extent
  extent_le : found.extent ≤ remaining
  indent_le : found.indent ≤ found.length

/-- A transition can be carried out in a mode, and leads to no initial frame. -/
def Transition.Suits (mode : Mode) : Transition → Prop
  | .stay => True
  | .push inner => inner ≠ .initial
  | .pop => mode ≠ .initial
  | .replace next => mode ≠ .initial ∧ next ≠ .initial

/-- The line that closes a heredoc, written out. -/
theorem eq_of_terminatorIndent? {quote : Char} {text : List Char} {width : Nat}
    (h : terminatorIndent? quote text = some width) :
    width = indentWidth text ∧
      ∃ tail, text = text.takeWhile isIndent ++ quote :: quote :: quote :: tail := by
  unfold terminatorIndent? at h
  split at h
  · next hmarker =>
      obtain ⟨tail, htail⟩ := beginsWithMarker_iff.mp hmarker
      refine ⟨(Option.some.inj h).symm, tail, ?_⟩
      rw [← htail, List.takeWhile_append_dropWhile]
  · simp at h

theorem terminatorIndent?_le {quote : Char} {text : List Char} {width : Nat}
    (h : terminatorIndent? quote text = some width) : width + 3 ≤ text.length := by
  obtain ⟨rfl, tail, htext⟩ := eq_of_terminatorIndent? h
  have hlength := congrArg List.length htext
  simp only [List.length_append, List.length_cons] at hlength
  unfold indentWidth
  omega

theorem indentWidth_take_le (count : Nat) (text : List Char) :
    indentWidth (text.take count) ≤ count := by
  have hprefix := (List.takeWhile_prefix isIndent (l := text.take count)).length_le
  have htake := List.length_take_le count text
  unfold indentWidth
  omega

/-- Every reading takes at least one character and no more than there are. -/
theorem Reading.fits {cursor : Cursor} {mode : Mode} {found : Match}
    (h : Reading cursor mode found) (hrest : cursor.rest ≠ []) :
    found.Fits cursor.rest.length := by
  have hremaining := List.length_pos_iff.mpr hrest
  cases h with
  | plain hmode hkind hpos hle hbrace => exact ⟨hpos, Nat.le_refl _, hle, Nat.zero_le _⟩
  | badCharacter hmode => exact ⟨Nat.one_pos, Nat.le_refl _, hremaining, Nat.zero_le _⟩
  | groupBody hpos =>
      exact ⟨hpos, Nat.le_refl _, length_bodyReach_le _ _ _, Nat.zero_le _⟩
  | heredocTrailing hpos =>
      exact ⟨hpos, Nat.le_refl _, (List.takeWhile_prefix _).length_le, Nat.zero_le _⟩
  | heredocOpeningEol hpos =>
      exact ⟨hpos, Nat.le_refl _, lineBreakLength_le_length _, Nat.zero_le _⟩
  | heredocEol hpos hopen =>
      exact ⟨hpos, Nat.le_refl _, lineBreakLength_le_length _, Nat.zero_le _⟩
  | @heredocTerminator heredoc width hstart hwidth =>
      exact ⟨Nat.succ_pos _, Nat.le_refl _, terminatorIndent?_le hwidth, Nat.le_add_right _ _⟩
  | heredocLine hpos hopen =>
      refine ⟨hpos, Nat.le_refl _, lineReach_le_length _ _, ?_⟩
      split
      · exact Nat.le_trans (indentWidth_take_le _ _) (Nat.min_le_left _ _)
      · exact Nat.zero_le _
  | _ =>
      -- What is left has its characters written out in `hrest`.
      rename_i hwritten
      constructor <;> simp_all [Match.moving, Match.plain]

theorem Reading.kind_ne_endOfInput {cursor : Cursor} {mode : Mode} {found : Match}
    (h : Reading cursor mode found) : found.kind ≠ .endOfInput := by
  cases h with
  | @plain mode kind length hmode hkind hpos hle hbrace =>
      intro heq
      replace heq : kind = .endOfInput := heq
      simp [heq, Kind.isPlain] at hkind
  | @quoteOpening mode quote literal tail hmode hquote hrest hsingle =>
      cases literal <;> simp [Match.moving, Literal.promoterKind]
  | @groupTerminator group tail hdepth hrest =>
      cases group.literal <;> simp [Match.moving, Literal.terminatorKind]
  | @groupBody group hpos =>
      cases group.literal <;> simp [Match.moving, Literal.bodyKind]
  | _ => simp [Match.plain, Match.moving]

/-- Every reading asks for a transition that its mode allows. -/
theorem Reading.suits {cursor : Cursor} {mode : Mode} {found : Match}
    (h : Reading cursor mode found) : found.transition.Suits mode := by
  cases h with
  | groupBody hpos =>
      simp only [Match.moving, Group.deepened]
      split <;> simp [Transition.Suits]
  | groupTerminator hdepth hrest =>
      simp only [Match.moving, closing]
      split <;> simp [Transition.Suits]
  | heredocTerminator hstart hwidth =>
      simp only [closing]
      split <;> simp [Transition.Suits]
  | _ => simp [Transition.Suits, Match.plain, Match.moving]

/-- Only a mode around a sigil gives way. -/
theorem GivesWay.isTransient {cursor : Cursor} {mode : Mode} (h : GivesWay cursor mode) :
    mode.isTransient := by
  cases h <;> rfl

end ElixirLexer
