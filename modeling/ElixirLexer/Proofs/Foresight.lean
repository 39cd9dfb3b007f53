import ElixirLexer.Proofs.Lookahead
import ElixirLexer.Proofs.Replay

/-!
# The search for the end of a heredoc goes along

Where the opening line of a heredoc ends, the text is searched for the line that closes it.
`Foresees` is the invariant that ties this search to the frames: every body carries the indentation
that was found at its first line, and as long as the braces of its interpolations match, the same
search, taken up where the lexer stands, finds the same indentation.  Beneath an interpolation it
is taken up behind the two characters that begin the interpolation.

The invariant is kept by every step (`Foresees.apply`) and so by every reading from the start of a
text (`Lexer.Reads.foresees`).  It does not say that a heredoc has an end.
-/

namespace ElixirLexer

/-! ## Tokens inside constructs -/

/-- A token is read while these constructs are the innermost pending ones. -/
def ReadIn (source : Source) (tokens : List Token) (inner : List Pending) (token : Token) : Prop :=
  ∃ seen later previous outer, tokens = seen ++ token :: later ∧
    replay source seen = some ⟨previous, inner ++ outer⟩

/-- In every interpolation directly inside a heredoc the braces match, whatever they belong to. -/
def BracesMatchIn (source : Source) (tokens : List Token) (heredoc : Pending) : Prop :=
  ∀ interpolation last, ReadIn source tokens [interpolation, heredoc] last →
    last.kind = .interpolationEnd →
      bracesMatch 0 (source.slice
        ⟨interpolation.start + 2, last.span.start - (interpolation.start + 2)⟩)

/-! ## The frames of heredocs -/

/-- What a search from here on finds. -/
def Heredoc.search (heredoc : Heredoc) (depth : Nat) (lineStart : Bool) (text : List Char) : Nat :=
  closingIndent heredoc.quote heredoc.interpolating depth lineStart text

/-- The body of a heredoc has the indentation that is found from its first line. -/
def Frame.IsForeseen (text : List Char) (frame : Frame) : Prop :=
  ∀ heredoc, frame.mode = .heredocBody heredoc →
    heredoc.indent = heredoc.search 0 true (behindLine (text.drop frame.openedAt))

/-- Under the frame on top the search goes on where the lexer stands.  This is known only of the
bodies that are `matched`. -/
def Frame.LooksAhead (text : List Char) (matched : Frame → Prop) (offset : Nat) (frame : Frame) :
    Prop :=
  match frame.mode with
  | .heredocOpen _ => behindLine (text.drop offset) = behindLine (text.drop frame.openedAt)
  | .heredocBody heredoc => matched frame →
      heredoc.search 0 (startsLine text offset) (text.drop offset) = heredoc.indent
  | _ => True

/-- In the bodies beneath interpolations the search goes on behind the two characters that begin
the interpolation. -/
def LookPast (text : List Char) (matched : Frame → Prop) : List Frame → Prop
  | upper :: lower :: below =>
      (∀ heredoc, lower.mode = .heredocBody heredoc → matched lower →
        heredoc.search 1 false (text.drop (upper.openedAt + 2)) = heredoc.indent) ∧
      LookPast text matched (lower :: below)
  | _ => True

/-- The frames of a lexer that stands at an offset of a text. -/
structure Foresees (text : List Char) (matched : Frame → Prop) (offset : Nat)
    (above : List Frame) : Prop where
  top : ∀ frame, above.head? = some frame → frame.LooksAhead text matched offset
  past : LookPast text matched above
  foreseen : ∀ frame ∈ above, frame.IsForeseen text

namespace Foresees

variable {text : List Char} {matched : Frame → Prop} {offset later : Nat} {above below : List Frame}
  {frame : Frame} {mode : Mode}

theorem nil : Foresees text matched offset [] where
  top := by simp
  past := trivial
  foreseen := by simp

theorem of_top (h : Foresees text matched offset above)
    (htop : ∀ frame, above.head? = some frame → frame.LooksAhead text matched later) :
    Foresees text matched later above :=
  ⟨htop, h.past, h.foreseen⟩

theorem pop (h : Foresees text matched offset (frame :: below))
    (htop : ∀ lower, below.head? = some lower → lower.LooksAhead text matched later) :
    Foresees text matched later below := by
  refine ⟨htop, ?_, fun lower hmem => h.foreseen lower (List.mem_cons_of_mem _ hmem)⟩
  cases below with
  | nil => trivial
  | cons lower lowest => exact h.past.2

/-- A frame is put on top.  If it lies on a body, the search there goes on behind its first two
characters. -/
theorem push (h : Foresees text matched offset above)
    (htop : Frame.LooksAhead text matched later ⟨mode, offset⟩)
    (hforeseen : Frame.IsForeseen text ⟨mode, offset⟩)
    (hpast : ∀ lower, above.head? = some lower → ∀ heredoc, lower.mode = .heredocBody heredoc →
      matched lower → heredoc.search 1 false (text.drop (offset + 2)) = heredoc.indent) :
    Foresees text matched later (⟨mode, offset⟩ :: above) := by
  refine ⟨by simpa using htop, ?_, List.forall_mem_cons.mpr ⟨hforeseen, h.foreseen⟩⟩
  cases above with
  | nil => trivial
  | cons lower below => exact ⟨hpast lower rfl, h.past⟩

theorem replace (h : Foresees text matched offset (frame :: below))
    (htop : Frame.LooksAhead text matched later { frame with mode })
    (hforeseen : Frame.IsForeseen text { frame with mode }) :
    Foresees text matched later ({ frame with mode } :: below) := by
  obtain ⟨-, hbelow⟩ := List.forall_mem_cons.mp h.foreseen
  refine ⟨by simpa using htop, ?_, List.forall_mem_cons.mpr ⟨hforeseen, hbelow⟩⟩
  cases below with
  | nil => trivial
  | cons lower lowest => exact h.past

end Foresees

/-! ## What a reading does to the search -/

/-- Beneath a literal nothing is searched. -/
theorem Frame.LiesOn.looksAhead {text : List Char} {matched : Frame → Prop} {offset : Nat}
    {frame lower : Frame} (h : frame.LiesOn (some lower)) (hliteral : frame.mode.isLiteral) :
    lower.LooksAhead text matched offset := by
  have hcode := (h.2.resolve_right (by simp [Mode.isInterpolation_eq_false hliteral])).2
  cases hlower : lower.mode with
  | interpolation depth => simp [Frame.LooksAhead, hlower]
  | _ => simp [hlower, Mode.isInterpolation] at hcode

namespace Reading

variable {cursor : Cursor} {mode : Mode} {found : Match} {matched : Frame → Prop} {openedAt : Nat}

theorem open_of_startsTerminator {quote : Char} (h : cursor.startsTerminator quote = false) :
    (startsLine cursor.text cursor.offset &&
      (terminatorIndent? quote (cursor.text.drop cursor.offset)).isSome) = false := by
  rw [← cursor.rest_eq_drop, ← cursor.atLineStart_eq]
  exact h

/-- The search passes over what is read of a line. -/
theorem looksAhead_of_stay (h : Reading cursor mode found) (htransition : found.transition = .stay)
    (hlooks : Frame.LooksAhead cursor.text matched cursor.offset ⟨mode, openedAt⟩) :
    Frame.LooksAhead cursor.text matched (cursor.offset + found.length) ⟨mode, openedAt⟩ := by
  have hrest := cursor.rest_eq_drop
  cases h with
  | @heredocTrailing heredoc hpos =>
      show behindLine _ = behindLine _
      rw [← List.drop_drop, ← hrest]
      show behindLine (cursor.rest.drop (cursor.rest.takeWhile fun c => !isLineBreak c).length) = _
      have hline : ∀ c ∈ cursor.rest.take (cursor.rest.takeWhile fun c => !isLineBreak c).length,
          isLineBreak c = false := by
        intro c hmem
        rw [← List.prefix_iff_eq_take.mp (List.takeWhile_prefix _)] at hmem
        simpa using List.all_eq_true.mp List.all_takeWhile c hmem
      rw [behindLine_drop hline, hrest]
      exact hlooks
  | @heredocEol heredoc hpos hopen =>
      intro hmatched
      have hsearch := hlooks hmatched
      have hterminator := open_of_startsTerminator hopen
      rw [hrest] at hpos
      show heredoc.search 0 (startsLine _ (_ + lineBreakLength cursor.rest))
        (cursor.text.drop (_ + lineBreakLength cursor.rest)) = _
      rw [hrest, startsLine_lineBreak hpos, ← List.drop_drop]
      exact (closingIndent_lineBreak hpos hterminator).symm.trans hsearch
  | @heredocLine heredoc hpos hopen =>
      intro hmatched
      have hsearch := hlooks hmatched
      have hterminator := open_of_startsTerminator hopen
      rw [hrest] at hpos
      show heredoc.search 0 (startsLine _ (_ + lineReach _ cursor.rest))
        (cursor.text.drop (_ + lineReach _ cursor.rest)) = _
      rw [hrest, startsLine_line hpos, ← List.drop_drop]
      exact (closingIndent_line hterminator).symm.trans hsearch
  | plain hmode | badCharacter hmode | heredocOpening hmode | quoteOpening hmode
  | sigilOpening hmode => cases mode <;> trivial
  | groupTerminator | heredocTerminator | heredocOpeningEol | heredocInterpolation =>
      simp [Match.moving] at htransition
  | _ => trivial

/-- A construct that begins foresees its end, and the search goes on in the interpolation that
begins in a body. -/
theorem looksAhead_of_push {inner : Mode} (h : Reading cursor mode found)
    (htransition : found.transition = .push inner)
    (hlooks : Frame.LooksAhead cursor.text matched cursor.offset ⟨mode, openedAt⟩) :
    Frame.LooksAhead cursor.text matched (cursor.offset + found.length) ⟨inner, cursor.offset⟩ ∧
      Frame.IsForeseen cursor.text ⟨inner, cursor.offset⟩ ∧
      ∀ heredoc, mode = .heredocBody heredoc → matched ⟨mode, openedAt⟩ →
        heredoc.search 1 false (cursor.text.drop (cursor.offset + 2)) = heredoc.indent := by
  have hrest := cursor.rest_eq_drop
  cases h with
  | @heredocOpening mode quote literal tail hmode hquote hmarker =>
      obtain rfl := Transition.push.inj htransition
      refine ⟨?_, by simp [Frame.IsForeseen], ?_⟩
      · have hbreak := isLineBreak_of_quotedLiteral? hquote
        show behindLine (cursor.text.drop (cursor.offset + 3)) = _
        rw [← List.drop_drop, ← hrest]
        refine behindLine_drop ?_
        simp [hmarker, hbreak]
      · rintro heredoc rfl
        simp [Mode.isCode] at hmode
  | @quoteOpening mode quote literal tail hmode hquote hrest hsingle =>
      obtain rfl := Transition.push.inj htransition
      refine ⟨trivial, by simp [Frame.IsForeseen], ?_⟩
      rintro heredoc rfl
      simp [Mode.isCode] at hmode
  | @sigilOpening mode letter delimiter tail hmode hrest hletter hdelimiter =>
      obtain rfl := Transition.push.inj htransition
      refine ⟨trivial, by simp [Frame.IsForeseen], ?_⟩
      rintro heredoc rfl
      simp [Mode.isCode] at hmode
  | groupInterpolation hinterpolating hhead =>
      obtain rfl := Transition.push.inj htransition
      exact ⟨trivial, by simp [Frame.IsForeseen], by simp⟩
  | @heredocInterpolation heredoc tail hinterpolating hhead hopen =>
      obtain rfl := Transition.push.inj htransition
      refine ⟨trivial, by simp [Frame.IsForeseen], ?_⟩
      intro body hbody hmatched
      obtain rfl := Mode.heredocBody.inj hbody
      have hsearch := hlooks hmatched
      have hterminator := open_of_startsTerminator hopen
      rw [Heredoc.search, hinterpolating] at hsearch ⊢
      rw [← List.drop_drop]
      rw [← hrest, hhead] at hsearch hterminator ⊢
      exact (closingIndent_interpolation tail hterminator).symm.trans hsearch
  | _ => simp [Match.plain, Match.moving] at htransition

/-- The opening line of a heredoc is read to its end, and there the search begins. -/
theorem looksAhead_of_replace {next : Mode} (h : Reading cursor mode found)
    (htransition : found.transition = .replace next)
    (hopened : mode.OpenedBy (cursor.text.drop openedAt))
    (hstands : Frame.StandsAt ⟨mode, openedAt⟩ cursor.offset)
    (hlooks : Frame.LooksAhead cursor.text matched cursor.offset ⟨mode, openedAt⟩) :
    Frame.LooksAhead cursor.text matched (cursor.offset + found.length) ⟨next, openedAt⟩ ∧
      Frame.IsForeseen cursor.text ⟨next, openedAt⟩ := by
  have hrest := cursor.rest_eq_drop
  cases h with
  | openBrace | closeBrace | sigilName | sigilDelimiter =>
      obtain rfl := Transition.replace.inj htransition
      exact ⟨trivial, by simp [Frame.IsForeseen]⟩
  | @sigilHeredoc interpolating quote literal tail hquote hmarker =>
      obtain rfl := Transition.replace.inj htransition
      obtain ⟨letter, hsigil, -⟩ := hopened
      obtain ⟨delimiter, behind, -, hall, -, hthird⟩ := hsigil.drop_eq
      have hoffset : cursor.offset = openedAt + 2 := hstands
      have hbreak := isLineBreak_of_quotedLiteral? hquote
      have hletter : isLineBreak letter = false := by
        obtain ⟨_, halpha, _⟩ := hsigil
        exact isLineBreak_of_isAlpha halpha
      rw [hoffset, hthird, hmarker] at hrest
      rw [← hrest] at hall
      refine ⟨?_, by simp [Frame.IsForeseen]⟩
      show behindLine (cursor.text.drop (cursor.offset + 3)) = _
      rw [hoffset, Nat.add_assoc, ← List.drop_drop]
      have htilde : isLineBreak '~' = false := by decide
      refine behindLine_drop ?_
      simp [hall, htilde, hbreak, hletter]
  | groupTerminator | heredocTerminator =>
      obtain ⟨-, -, rfl⟩ := eq_of_closing_eq_replace htransition
      exact ⟨trivial, by simp [Frame.IsForeseen]⟩
  | groupBody =>
      obtain rfl := Group.eq_of_deepened_eq_replace htransition
      exact ⟨trivial, by simp [Frame.IsForeseen]⟩
  | @heredocOpeningEol heredoc hpos =>
      obtain rfl := Transition.replace.inj htransition
      have hbehind : behindLine (cursor.text.drop openedAt) =
          cursor.rest.drop (lineBreakLength cursor.rest) := by
        rw [← behindLine_of_lineBreak hpos, hrest]
        exact hlooks.symm
      constructor
      · intro hmatched
        show closingIndent _ _ _ (startsLine _ (_ + lineBreakLength cursor.rest))
          (cursor.text.drop (_ + lineBreakLength cursor.rest)) = _
        rw [hrest] at hpos
        rw [hrest, startsLine_lineBreak hpos, ← List.drop_drop]
      · intro body hbody
        obtain rfl := Mode.heredocBody.inj hbody
        rw [Heredoc.search, hbehind]
  | _ => simp [Match.plain, Match.moving] at htransition

/-- Where an interpolation with matching braces ends, the search goes on behind its last brace. -/
theorem looksAhead_of_pop {lower : Frame} (h : Reading cursor mode found)
    (htransition : found.transition = .pop)
    (hopened : mode.OpenedBy (cursor.text.drop openedAt))
    (hlies : Frame.LiesOn ⟨mode, openedAt⟩ (some lower)) (hlt : openedAt < cursor.offset)
    (hpast : ∀ heredoc, lower.mode = .heredocBody heredoc → matched lower →
      heredoc.search 1 false (cursor.text.drop (openedAt + 2)) = heredoc.indent)
    (hinside : found.kind = .interpolationEnd → matched lower →
      bracesMatch 0 ((cursor.text.drop (openedAt + 2)).take (cursor.offset - (openedAt + 2)))) :
    lower.LooksAhead cursor.text matched (cursor.offset + found.length) := by
  have hrest := cursor.rest_eq_drop
  cases h with
  | @interpolationEnd tail hbrace =>
      have hmodes := hlies.2
      cases hlower : lower.mode with
      | heredocBody heredoc =>
          unfold Frame.LooksAhead
          rw [hlower]
          intro hmatched
          -- What was read since the interpolation began has matching braces.
          have hmatch := hinside rfl hmatched
          have hsearch := hpast heredoc hlower hmatched
          rw [hbrace] at hrest
          obtain ⟨behind, hhead⟩ := hopened
          have hsecond : cursor.text.drop (openedAt + 1) = '{' :: behind := by
            rw [← List.drop_drop, ← hhead]
            rfl
          -- The brace that ends the interpolation is not the one that begins it.
          have hge : openedAt + 2 ≤ cursor.offset := by
            rcases Nat.lt_or_ge cursor.offset (openedAt + 2) with hshort | hge
            · have hoffset : cursor.offset = openedAt + 1 := by omega
              rw [hoffset, hsecond] at hrest
              simp at hrest
            · exact hge
          have hsplit : cursor.text.drop (openedAt + 2) =
              (cursor.text.drop (openedAt + 2)).take (cursor.offset - (openedAt + 2)) ++
                '}' :: tail := by
            rw [hrest]
            conv => lhs; rw [← List.take_append_drop (cursor.offset - (openedAt + 2))
              (cursor.text.drop (openedAt + 2)), List.drop_drop, Nat.add_sub_cancel' hge]
          have hstart : startsLine cursor.text (cursor.offset + 1) = false :=
            startsLine_add [] '}' (by rw [← hrest]; rfl)
          have hdrop : cursor.text.drop (cursor.offset + 1) = tail := by
            rw [← List.drop_drop, ← hrest]
            rfl
          rw [hsplit] at hsearch
          show heredoc.search 0 (startsLine _ (_ + 1)) (cursor.text.drop (_ + 1)) = _
          rw [hstart, hdrop]
          exact (closingIndent_inside tail hmatch).symm.trans hsearch
      | heredocOpen heredoc => simp [hlower, Mode.isInterpolation, Mode.isInterpolating] at hmodes
      | _ => simp [Frame.LooksAhead, hlower]
  | groupTerminator | heredocTerminator => exact hlies.looksAhead rfl
  | _ => simp [Match.plain, Match.moving] at htransition

end Reading

/-! ## Steps -/

namespace Foresees

variable {matched : Frame → Prop} {cursor : Cursor}

/-- Nothing is searched under a frame that gives way, nor under the one beneath it. -/
theorem of_append {gone kept : List Frame}
    (h : Foresees cursor.text matched cursor.offset (gone ++ kept))
    (hshaped : Shaped cursor.text cursor.offset (gone ++ kept))
    (hgone : gone = [] ∨ ∃ frame, gone = [frame] ∧ frame.mode = .sigilModifiers) :
    Foresees cursor.text matched cursor.offset kept := by
  rcases hgone with rfl | ⟨frame, rfl, hmode⟩
  · exact h
  · refine h.pop ?_
    intro lower hlower
    have hlies : frame.LiesOn kept.head? := hshaped.nested.2.1
    replace hlower : kept.head? = some lower := hlower
    rw [hlower] at hlies
    exact hlies.looksAhead (by simp [hmode, Mode.isLiteral])

theorem apply {kept : List Frame} {base : Nat} {found : Match} {stack : Stack}
    (h : Foresees cursor.text matched cursor.offset kept)
    (hshaped : Shaped cursor.text cursor.offset kept)
    (hreading : Reading cursor (Stack.top ⟨kept, base⟩).mode found)
    (happly : Stack.apply ⟨kept, base⟩ found.transition cursor.offset = .ok stack)
    (hinside : ∀ upper lower below, kept = upper :: lower :: below →
      found.kind = .interpolationEnd → matched lower →
        bracesMatch 0 ((cursor.text.drop (upper.openedAt + 2)).take
          (cursor.offset - (upper.openedAt + 2)))) :
    Foresees cursor.text matched (cursor.offset + found.length) stack.above := by
  -- The initial frame searches for nothing.
  have htop : (Stack.top ⟨kept, base⟩).LooksAhead cursor.text matched cursor.offset := by
    cases kept with
    | nil => trivial
    | cons frame below => exact h.top frame rfl
  cases htransition : found.transition with
  | stay =>
      rw [htransition] at happly
      obtain rfl := Except.ok.inj happly
      have hnext := hreading.looksAhead_of_stay htransition htop
      refine h.of_top ?_
      intro frame hframe
      have heq : Stack.top ⟨kept, base⟩ = frame := by
        simp [Stack.top, hframe]
      rw [← heq]
      exact hnext
  | push inner =>
      rw [htransition] at happly
      obtain rfl := Except.ok.inj happly
      obtain ⟨hinner, hforeseen, hpast⟩ := hreading.looksAhead_of_push htransition htop
      refine h.push hinner hforeseen ?_
      intro lower hlower
      have heq : Stack.top ⟨kept, base⟩ = lower := by
        simp [Stack.top, hlower]
      rw [← heq]
      exact hpast
  | pop =>
      rw [htransition] at happly
      obtain ⟨frame, hkept, -⟩ := Stack.exists_of_apply_pop happly
      obtain rfl : kept = frame :: stack.above := hkept
      refine h.pop ?_
      intro lower hlower
      obtain ⟨lowest, hbelow⟩ := List.head?_eq_some_iff.mp hlower
      obtain ⟨hopened, hlies, -⟩ := hshaped.nested
      have hpast := h.past
      rw [hbelow] at hlies hpast hinside
      exact hreading.looksAhead_of_pop htransition hopened hlies
        (hshaped.stands frame rfl).openedAt_lt hpast.1 (hinside frame lower lowest rfl)
  | replace following =>
      rw [htransition] at happly
      obtain ⟨frame, below, hkept, rfl⟩ := Stack.exists_of_apply_replace happly
      obtain rfl : kept = frame :: below := hkept
      obtain ⟨hnext, hforeseen⟩ := hreading.looksAhead_of_replace htransition
        hshaped.nested.1 (hshaped.stands frame rfl) htop
      exact h.replace hnext hforeseen

end Foresees

/-! ## Which reading makes a token -/

/-- What the kind of a token tells about its reading. -/
def Kind.Reveals (cursor : Cursor) (mode : Mode) (found : Match) : Kind → Prop
  | .interpolationEnd => mode = .interpolation 0
  | .heredocTerminator => ∃ heredoc, mode = .heredocBody heredoc ∧ cursor.atLineStart ∧
      terminatorIndent? heredoc.quote cursor.rest = some found.indent
  | .heredocLine => ∃ heredoc, mode = .heredocBody heredoc ∧
      found.indent = if cursor.atLineStart then
        indentWidth (cursor.rest.take (min found.length heredoc.indent)) else 0
  | _ => True

theorem Reading.reveals {cursor : Cursor} {mode : Mode} {found : Match}
    (h : Reading cursor mode found) : found.kind.Reveals cursor mode found := by
  cases h with
  | @plain mode kind length hmode hkind =>
      show kind.Reveals _ _ _
      cases kind <;> trivial
  | @quoteOpening mode quote literal => cases literal <;> trivial
  | @groupTerminator group =>
      show group.literal.terminatorKind.Reveals _ _ _
      cases group.literal <;> trivial
  | @groupBody group =>
      show group.literal.bodyKind.Reveals _ _ _
      cases group.literal <;> trivial
  | interpolationEnd => rfl
  | heredocTerminator hstart hwidth => exact ⟨_, rfl, hstart, hwidth⟩
  | heredocLine hpos hopen => exact ⟨_, rfl, rfl⟩
  | _ => trivial

/-! ## Runs -/

theorem ReadIn.of_replay {source : Source} {tokens all : List Token} {inner outer : List Pending}
    {token : Token} {state : Replay} (hall : tokens ++ [token] <+: all)
    (hstate : replay source tokens = some state) (hpending : state.pending = inner ++ outer) :
    ReadIn source all inner token := by
  obtain ⟨later, rfl⟩ := hall
  obtain ⟨previous, pending⟩ := state
  replace hpending : pending = inner ++ outer := hpending
  refine ⟨tokens, later, previous, outer, by simp, ?_⟩
  rw [hstate, hpending]

/-- The braces match in what is read between the start of an interpolation and its end. -/
theorem BracesMatchIn.inside {source : Source} {tokens all : List Token} {token : Token}
    {state : Replay} {interpolation heredoc : Pending} {outer : List Pending}
    (h : BracesMatchIn source all heredoc) (hall : tokens ++ [token] <+: all)
    (hstate : replay source tokens = some state)
    (hpending : state.pending = interpolation :: heredoc :: outer)
    (hkind : token.kind = .interpolationEnd) :
    bracesMatch 0 (source.slice
      ⟨interpolation.start + 2, token.span.start - (interpolation.start + 2)⟩) :=
  h interpolation token (.of_replay hall hstate hpending) hkind

/-- The body of a heredoc in whose interpolations all braces match. -/
def Frame.IsMatchedIn (source : Source) (tokens : List Token) (frame : Frame) : Prop :=
  ∀ pending, frame.pending? = some pending → BracesMatchIn source tokens pending

/-- What is found at the opening line of a heredoc is found again at every later place. -/
theorem Lexer.Reads.foresees {text : List Char} {options : Options} {last : Lexer}
    {tokens all : List Token} (h : Reads (Lexer.ofText text options) tokens last)
    (hall : tokens <+: all) :
    Foresees text (Frame.IsMatchedIn (Source.ofList text) all) last.offset last.stack.above := by
  induction h with
  | refl => exact .nil
  | @snoc tokens middle step before hrest hstep ih =>
      have hbefore := ih ((List.prefix_append _ _).trans hall)
      obtain ⟨state, hstate, hfollows⟩ := before.follows
      obtain ⟨htext, -, hframes⟩ := (IsShaped.ofText text options).reads before
      have hmoves := moves_of_step hrest hstep
      obtain rfl := htext
      cases hmoves with
      | @mk gone kept found stack habove hgone hreading hfits happly =>
          rw [habove] at hframes hbefore
          have hkept := hfollows.kept hframes habove hgone
          have hlength := Nat.le_trans hfits.length_le hfits.extent_le
          show Foresees _ _ (middle.cursor.skip _).offset _
          rw [Cursor.offset_skip hlength]
          refine (hbefore.of_append hframes (hframes.gone_eq hgone)).apply hframes.of_append
            hreading happly ?_
          -- The token that ends an interpolation is one of those that `matched` speaks of.
          rintro upper lower below rfl hkind hmatched
          have hmode := hreading.reveals
          rw [hkind] at hmode
          replace hmode : upper.mode = .interpolation 0 := hmode
          have hupper : upper.pending? = some ⟨.interpolation, upper.openedAt, ['#', '{']⟩ := by
            simp [Frame.pending?, hmode]
          have hlies : upper.LiesOn (some lower) := hframes.of_append.nested.2.1
          obtain ⟨pending, hlower⟩ : ∃ pending, lower.pending? = some pending := by
            have hmodes := hlies.2
            unfold Frame.pending?
            cases hcase : lower.mode with
            | initial => simp [hcase, Mode.isInterpolation, Mode.isInterpolating] at hmodes
            | sigilModifiers => simp [hcase, Mode.isInterpolation, Mode.isInterpolating] at hmodes
            | _ => exact ⟨_, rfl⟩
          have hpending := hkept.pending_eq
          rw [List.filterMap_cons_some hupper, List.filterMap_cons_some hlower] at hpending
          exact (hmatched pending hlower).inside hall hstate hpending hkind

end ElixirLexer
