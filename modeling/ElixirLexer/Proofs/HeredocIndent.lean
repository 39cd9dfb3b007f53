import ElixirLexer.Proofs.Foresight

/-!
# The indentation of heredocs

How much indentation is taken off the lines of a heredoc that is closed, and when it is the
indentation of the line that closes it (`tokenize_strips`).  It always is where the braces in the
interpolations of the heredoc match.  It is NOT in general: the search counts the braces inside
strings, comments, character literals and nested literals too, and may miss the closing line or
stop at a line inside an interpolation (`not_strips_strayBrace`).

Everything is said about the tokens of a text and the constructs that are pending around them, and
nothing about the lexer that reads them.
-/

namespace ElixirLexer

/-! ## Tokens of a body -/

/-- A token and the reading that makes it, in the body of a heredoc that began at `openedAt`. -/
structure ReadInBody (text : List Char) (matched : Frame → Prop) (pending : Pending) (token : Token)
    (cursor : Cursor) (openedAt : Nat) (heredoc : Heredoc) (found : Match) : Prop where
  text_eq : cursor.text = text
  pending_eq : Frame.pending? ⟨.heredocBody heredoc, openedAt⟩ = some pending
  reveals : token.kind.Reveals cursor (.heredocBody heredoc) found
  span_eq : token.span = ⟨cursor.offset, found.length⟩
  indent_eq : token.indent = found.indent
  opened : Mode.OpenedBy (text.drop openedAt) (.heredocBody heredoc)
  foreseen : Frame.IsForeseen text ⟨.heredocBody heredoc, openedAt⟩
  looksAhead : Frame.LooksAhead text matched cursor.offset ⟨.heredocBody heredoc, openedAt⟩

/-- The frame on top that waits for an end is the innermost pending construct. -/
theorem Follows.exists_of_mode {state : Replay} {kept : List Frame} {base : Nat} {mode : Mode}
    {pending : Pending} {outer : List Pending} (h : Follows state ⟨kept, base⟩)
    (hmode : (Stack.top ⟨kept, base⟩).mode = mode) (hpending : state.pending = pending :: outer)
    (hwaits : ∀ openedAt, Frame.pending? ⟨mode, openedAt⟩ ≠ none) :
    ∃ openedAt below, kept = ⟨mode, openedAt⟩ :: below ∧
      Frame.pending? ⟨mode, openedAt⟩ = some pending := by
  cases kept with
  | nil =>
      have hnone := hwaits 0
      rw [← hmode] at hnone
      exact absurd rfl hnone
  | cons frame below =>
      obtain ⟨top, openedAt⟩ := frame
      obtain rfl : top = mode := hmode
      refine ⟨openedAt, below, rfl, ?_⟩
      obtain ⟨own, hown⟩ := Option.ne_none_iff_exists'.mp (hwaits openedAt)
      have hall := h.pending_cons hown
      rw [hpending] at hall
      rw [hown, (List.cons.inj hall).1]

theorem Lexer.Reads.exists_readInBody {text : List Char} {options : Options} {last : Lexer}
    {tokens : List Token} {pending : Pending} {token : Token}
    (h : Reads (Lexer.ofText text options) tokens last)
    (hread : ReadIn (Source.ofList text) tokens [pending] token)
    (hkind : token.kind = .heredocLine ∨ token.kind = .heredocTerminator) :
    ∃ cursor openedAt heredoc found,
      ReadInBody text (Frame.IsMatchedIn (Source.ofList text) tokens) pending token cursor openedAt
        heredoc found := by
  -- The lexer stands behind `seen`, and its next step makes the token.
  obtain ⟨seen, later, previous, outer, hall, hreplay⟩ := hread
  rw [hall, List.append_cons] at h
  obtain ⟨between, hbetween, -⟩ := h.exists_of_append
  obtain ⟨middle, step, hseen, hrest, hstep, htoken, -⟩ := hbetween.exists_of_snoc
  have hprefix : seen <+: tokens := by
    rw [hall]
    exact List.prefix_append _ _
  have hforesees := hseen.foresees hprefix
  obtain ⟨state, hstate, hfollows⟩ := hseen.follows
  obtain rfl := Option.some.inj (hstate.symm.trans hreplay)
  obtain ⟨htext, -, hframes⟩ := (IsShaped.ofText text options).reads hseen
  have hmoves := moves_of_step hrest hstep
  obtain rfl := htext
  cases hmoves with
  | @mk gone kept found stack habove hgone hreading hfits happly =>
      rw [habove] at hframes hforesees
      have hkept := hfollows.kept hframes habove hgone
      have hreveals := hreading.reveals
      subst htoken
      -- Only the body of a heredoc makes tokens of these kinds.
      obtain ⟨heredoc, hmode⟩ : ∃ heredoc,
          (Stack.top ⟨kept, middle.stack.base⟩).mode = .heredocBody heredoc := by
        rcases hkind with hkind | hkind
        · replace hkind : found.kind = .heredocLine := hkind
          rw [hkind] at hreveals
          obtain ⟨heredoc, hmode, -⟩ := hreveals
          exact ⟨heredoc, hmode⟩
        · replace hkind : found.kind = .heredocTerminator := hkind
          rw [hkind] at hreveals
          obtain ⟨heredoc, hmode, -⟩ := hreveals
          exact ⟨heredoc, hmode⟩
      obtain ⟨openedAt, below, rfl, hpending⟩ := hkept.exists_of_mode hmode rfl
        (by simp [Frame.pending?])
      have hshaped := hframes.of_append
      have hlooks := hforesees.of_append hframes (hframes.gone_eq hgone)
      exact ⟨middle.cursor, openedAt, heredoc, found, {
        text_eq := rfl
        pending_eq := hpending
        reveals := hreveals
        span_eq := rfl
        indent_eq := rfl
        opened := hshaped.nested.1
        foreseen := hlooks.foreseen _ List.mem_cons_self
        looksAhead := hlooks.top _ rfl }⟩

/-! ## The indentation of lines -/

/-- Whether the body of a pending heredoc interpolates: behind a tilde the letter says so. -/
def Pending.interpolates (text : List Char) (heredoc : Pending) : Bool :=
  match heredoc.construct with
  | .sigilHeredoc => (text.drop (heredoc.start + 1)).head?.any Char.isLower
  | _ => true

/-- The frame of a heredoc knows whether its body interpolates. -/
theorem Mode.OpenedBy.interpolates_eq {text : List Char} {openedAt : Nat} {heredoc : Heredoc}
    (h : Mode.OpenedBy (text.drop openedAt) (.heredocBody heredoc)) :
    Pending.interpolates text ⟨heredoc.construct, openedAt,
      [heredoc.quote, heredoc.quote, heredoc.quote]⟩ = heredoc.interpolating := by
  obtain ⟨-, -, hliteral⟩ := h
  cases hcase : heredoc.literal with
  | sigil =>
      rw [hcase] at hliteral
      obtain ⟨letter, -, hinterpolating, behind, hbehind⟩ := hliteral
      have hletter : (text.drop (openedAt + 1)).head? = some letter := by
        rw [← List.drop_drop, ← hbehind]
        rfl
      simp [Pending.interpolates, Heredoc.construct, hcase, hletter, hinterpolating]
  | string | charList =>
      rw [hcase] at hliteral
      simp [Pending.interpolates, Heredoc.construct, hcase, hliteral.1]

/-- The indentation that the search finds behind the opening line of a heredoc. -/
def Pending.foreseen (text : List Char) (heredoc : Pending) : Nat :=
  match heredoc.opener with
  | [] => 0
  | quote :: _ =>
      closingIndent quote (heredoc.interpolates text) 0 true (behindLine (text.drop heredoc.start))

namespace Lexed

variable (lexed : Lexed)

/-- A line, or a part of one, that belongs directly to a heredoc. -/
def IsLineOf (heredoc : Pending) (line : Token) : Prop :=
  ReadIn lexed.source lexed.tokens [heredoc] line ∧ line.kind = .heredocLine

/-- The token that closes a heredoc. -/
def IsEndOf (heredoc : Pending) (terminator : Token) : Prop :=
  ReadIn lexed.source lexed.tokens [heredoc] terminator ∧ terminator.kind = .heredocTerminator

/-- Number of spaces and tabs at the head of a token. -/
def blanks (token : Token) : Nat :=
  indentWidth (lexed.text token)

/-- Whether a token is the first of its line. -/
def startsLine (token : Token) : Bool :=
  ElixirLexer.startsLine lexed.source.chars token.span.start

/-- From every line of a heredoc that much indentation is taken off, as far as there is any, and
nothing from the rest of a line behind an interpolation. -/
def Strips (heredoc : Pending) (width : Nat) : Prop :=
  ∀ line, lexed.IsLineOf heredoc line →
    line.indent = if lexed.startsLine line then min (lexed.blanks line) width else 0

end Lexed

namespace ReadInBody

variable {text : List Char} {matched : Frame → Prop} {pending : Pending} {token : Token}
  {cursor : Cursor} {openedAt : Nat} {heredoc : Heredoc} {found : Match}

/-- What is foreseen from the tokens is what the frame carries. -/
theorem foreseen_eq (h : ReadInBody text matched pending token cursor openedAt heredoc found) :
    pending.foreseen text = heredoc.indent := by
  obtain rfl := Option.some.inj h.pending_eq
  rw [h.foreseen heredoc rfl, Heredoc.search, ← h.opened.interpolates_eq]
  rfl

theorem slice_eq (h : ReadInBody text matched pending token cursor openedAt heredoc found) :
    (Source.ofList text).slice token.span = cursor.rest.take found.length := by
  rw [h.span_eq, cursor.rest_eq_drop, h.text_eq]
  rfl

theorem indent_of_line (h : ReadInBody text matched pending token cursor openedAt heredoc found)
    (hkind : token.kind = .heredocLine) :
    token.indent = if startsLine text token.span.start then
      min (indentWidth ((Source.ofList text).slice token.span)) (pending.foreseen text) else 0 := by
  have hreveals := h.reveals
  rw [hkind] at hreveals
  obtain ⟨body, hbody, hindent⟩ := hreveals
  obtain rfl := Mode.heredocBody.inj hbody
  have hstart : token.span.start = cursor.offset := by rw [h.span_eq]
  rw [h.indent_eq, hindent, cursor.atLineStart_eq, h.text_eq, hstart, h.slice_eq, h.foreseen_eq,
    indentWidth_take_min]

/-- The search that goes on to the closing line finds the indentation of that line. -/
theorem foreseen_of_terminator
    (h : ReadInBody text matched pending token cursor openedAt heredoc found)
    (hkind : token.kind = .heredocTerminator)
    (hmatched : matched ⟨.heredocBody heredoc, openedAt⟩) :
    pending.foreseen text = token.indent := by
  have hreveals := h.reveals
  rw [hkind] at hreveals
  obtain ⟨body, hbody, hstart, hwidth⟩ := hreveals
  obtain rfl := Mode.heredocBody.inj hbody
  have hsearch : heredoc.search 0 (startsLine text cursor.offset) (text.drop cursor.offset) =
      heredoc.indent := h.looksAhead hmatched
  rw [cursor.atLineStart_eq, h.text_eq] at hstart
  rw [cursor.rest_eq_drop, h.text_eq] at hwidth
  rw [h.foreseen_eq, h.indent_eq, ← hsearch, hstart]
  exact closingIndent_terminator hwidth

end ReadInBody

/-- Two widths take the same off a line only if they are equal or the line has too few blanks. -/
theorem min_eq_min_iff {blanks first second : Nat} :
    min blanks first = min blanks second ↔ first = second ∨ blanks ≤ min first second := by
  omega

/-- Two widths are taken off the lines of a heredoc at the same time only if they are equal or no
line is indented further than both. -/
theorem Lexed.Strips.iff {lexed : Lexed} {heredoc : Pending} {first second : Nat}
    (h : lexed.Strips heredoc first) :
    lexed.Strips heredoc second ↔ first = second ∨
      ∀ line, lexed.IsLineOf heredoc line → lexed.startsLine line →
        lexed.blanks line ≤ min first second := by
  constructor
  · intro hsecond
    by_cases heq : first = second
    · exact .inl heq
    · refine .inr ?_
      intro line hline hstart
      have hboth := (h line hline).symm.trans (hsecond line hline)
      rw [if_pos hstart, if_pos hstart] at hboth
      exact (min_eq_min_iff.mp hboth).resolve_left heq
  · intro hsame line hline
    rw [h line hline]
    split
    · next hstart =>
        refine min_eq_min_iff.mpr ?_
        rcases hsame with heq | hblanks
        · exact .inl heq
        · exact .inr (hblanks line hline hstart)
    · rfl

/-- **The indentation of heredocs.**  Every heredoc that is closed has the indentation taken off
its lines that the search behind its opening line foresees.  This is the indentation of the line
that closes it exactly if the search finds a line with the same indentation, or no line of the
heredoc is indented further than both.  The search finds the line that closes the heredoc if in
every interpolation directly inside the heredoc the braces match, those in strings, comments and
nested literals included. -/
theorem tokenize_strips (text : List Char) (options : Options) :
    ∃ lexed, tokenize options text = .ok lexed ∧ ∀ heredoc terminator,
      lexed.IsEndOf heredoc terminator →
        lexed.Strips heredoc (heredoc.foreseen text) ∧
        (lexed.Strips heredoc terminator.indent ↔
          heredoc.foreseen text = terminator.indent ∨
            ∀ line, lexed.IsLineOf heredoc line → lexed.startsLine line →
              lexed.blanks line ≤ min (heredoc.foreseen text) terminator.indent) ∧
        (BracesMatchIn lexed.source lexed.tokens heredoc →
          heredoc.foreseen text = terminator.indent) := by
  obtain ⟨tokens, last, hreads, hlast, htokenize⟩ :=
    Lexer.exists_reads_of_tokenize text options
  refine ⟨_, htokenize, ?_⟩
  rintro heredoc terminator ⟨hend, hkind⟩
  have hstrips : Lexed.Strips ⟨Source.ofList text, tokens, last.finish.lexer.diagnostics,
      last.finish.lexer.stack.frames⟩ heredoc (heredoc.foreseen text) := by
    rintro line ⟨hline, hkind⟩
    obtain ⟨cursor, openedAt, body, found, hbody⟩ := hreads.exists_readInBody hline (.inl hkind)
    exact hbody.indent_of_line hkind
  refine ⟨hstrips, hstrips.iff, ?_⟩
  intro hbraces
  obtain ⟨cursor, openedAt, body, found, hbody⟩ := hreads.exists_readInBody hend (.inr hkind)
  refine hbody.foreseen_of_terminator hkind ?_
  intro pending hpending
  obtain rfl := Option.some.inj (hbody.pending_eq.symm.trans hpending)
  exact hbraces

/-- A heredoc with a brace as a character literal in an interpolation. -/
def strayBrace : List Char :=
  ['"', '"', '"', '\n', '#', '{', '?', '{', '}', '\n', ' ', 'x', '\n', ' ', '"', '"', '"']

/-- The tokens of `strayBrace`. -/
def strayBraceTokens : List Token :=
  [⟨.heredocPromoter, ⟨0, 3⟩, .heredocOpen, 0⟩, ⟨.eol, ⟨3, 1⟩, .heredocBody, 0⟩,
    ⟨.interpolationStart, ⟨4, 2⟩, .interpolation, 0⟩, ⟨.charToken, ⟨6, 2⟩, .interpolation, 0⟩,
    ⟨.interpolationEnd, ⟨8, 1⟩, .heredocBody, 0⟩, ⟨.eol, ⟨9, 1⟩, .heredocBody, 0⟩,
    ⟨.heredocLine, ⟨10, 2⟩, .heredocBody, 0⟩, ⟨.eol, ⟨12, 1⟩, .heredocBody, 0⟩,
    ⟨.heredocTerminator, ⟨13, 4⟩, .initial, 1⟩]

theorem tokens_strayBrace :
    (tokenize {} strayBrace).toOption.map (·.tokens) = some strayBraceTokens := by
  decide +kernel

/-- The brace leads the search astray: the line that closes the heredoc has one blank in front of
it, and nothing is taken off the blank in front of `x`. -/
theorem not_strips_strayBrace :
    ∃ lexed heredoc terminator, tokenize {} strayBrace = .ok lexed ∧
      lexed.IsEndOf heredoc terminator ∧ ¬ lexed.Strips heredoc terminator.indent := by
  obtain ⟨tokens, last, -, -, htokenize⟩ := Lexer.exists_reads_of_tokenize strayBrace {}
  have htokens := tokens_strayBrace
  rw [htokenize] at htokens
  obtain rfl : tokens = strayBraceTokens := Option.some.inj htokens
  refine ⟨_, ⟨.heredoc, 0, ['"', '"', '"']⟩, ⟨.heredocTerminator, ⟨13, 4⟩, .initial, 1⟩,
    htokenize, ⟨⟨strayBraceTokens.take 8, [], some .eol, [], rfl, ?_⟩, rfl⟩, ?_⟩
  · show replay (Source.ofList strayBrace) (strayBraceTokens.take 8) =
      some ⟨some .eol, [⟨.heredoc, 0, ['"', '"', '"']⟩]⟩
    decide +kernel
  · intro hstrips
    have hreplay : replay (Source.ofList strayBrace) (strayBraceTokens.take 6) =
        some ⟨some .eol, [⟨.heredoc, 0, ['"', '"', '"']⟩]⟩ := by
      decide +kernel
    have hline : 0 = if startsLine strayBrace 10 then
        min (indentWidth ((Source.ofList strayBrace).slice ⟨10, 2⟩)) 1 else 0 :=
      hstrips ⟨.heredocLine, ⟨10, 2⟩, .heredocBody, 0⟩
        ⟨⟨strayBraceTokens.take 6, strayBraceTokens.drop 7, some .eol, [], rfl, hreplay⟩, rfl⟩
    exact absurd hline (by decide +kernel)

end ElixirLexer
