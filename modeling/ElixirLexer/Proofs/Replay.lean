import ElixirLexer.Proofs.StackShape

/-!
# The tokens replay the stack

Which constructs are open can be told from the tokens alone: some of them open a construct, some
close the innermost one, and all others leave things as they are.  `replay` follows a list of tokens
in this way and gives up as soon as a token does not fit, that is, when it closes nothing, closes a
construct of another kind, or closes it with other delimiters than it was opened with.

The tokens of a text are followed to their end, and then the pending constructs are the frames of
the stack, one for one (`replay_tokenize`).  Behind each token the pending constructs are those of
the frames that wait for an end; the frame of the modifiers of a sigil waits for none.
-/

namespace ElixirLexer

/-! ## Following tokens -/

/-- What a token can open. -/
inductive Construct
  | sigil
  | string
  | charList
  | heredoc
  /-- A heredoc behind the letter of a sigil. -/
  | sigilHeredoc
  | interpolation
  deriving DecidableEq

/-- The kind of the token that closes a construct. -/
def Construct.terminatorKind : Construct → Kind
  | .sigil => .sigilTerminator
  | .string => .stringTerminator
  | .charList => .charListTerminator
  | .heredoc | .sigilHeredoc => .heredocTerminator
  | .interpolation => .interpolationEnd

/-- A construct that waits for its end. -/
structure Pending where
  construct : Construct
  /-- Where its first token starts. -/
  start : Nat
  /-- The delimiter that opened it; empty until the delimiter of a sigil has been read. -/
  opener : List Char
  deriving DecidableEq

/-- Whether a text closes a pending construct: a single delimiter closes with its counterpart, and
a heredoc with its own three quotes, whatever stands in front of them. -/
def Pending.isClosedBy (pending : Pending) (text : List Char) : Bool :=
  match pending.construct with
  | .sigil | .string | .charList => text == pending.opener.map closingDelimiter
  | .heredoc | .sigilHeredoc => text.drop (text.length - 3) == pending.opener
  | .interpolation => true

/-- What is known behind some tokens. -/
structure Replay where
  /-- The kind of the last token. -/
  previous : Option Kind
  /-- Innermost first. -/
  pending : List Pending
  deriving DecidableEq

namespace Replay

/-- Nothing has been read yet. -/
def initial : Replay :=
  ⟨none, []⟩

/-- The sigil that waits for its delimiter gets it, and turns out to be `construct`. -/
def delimit (construct : Construct) (text : List Char) : List Pending → Option (List Pending)
  | ⟨.sigil, start, []⟩ :: outer => some (⟨construct, start, text⟩ :: outer)
  | _ => none

/-- The innermost construct is closed. -/
def close (kind : Kind) (text : List Char) : List Pending → Option (List Pending)
  | [] => none
  | inner :: outer =>
      if inner.construct.terminatorKind = kind ∧ inner.isClosedBy text then some outer else none

/-- What is pending behind a token of this kind and text that starts at `start`. -/
def next (replay : Replay) (kind : Kind) (start : Nat) (text : List Char) :
    Option (List Pending) :=
  match kind with
  | .tilde => some (⟨.sigil, start, []⟩ :: replay.pending)
  | .stringPromoter => some (⟨.string, start, text⟩ :: replay.pending)
  | .charListPromoter => some (⟨.charList, start, text⟩ :: replay.pending)
  | .interpolationStart => some (⟨.interpolation, start, text⟩ :: replay.pending)
  | .sigilPromoter => delimit .sigil text replay.pending
  | .heredocPromoter =>
      if replay.previous = some .sigilName then delimit .sigilHeredoc text replay.pending
      else some (⟨.heredoc, start, text⟩ :: replay.pending)
  | .sigilTerminator | .stringTerminator | .charListTerminator | .heredocTerminator
  | .interpolationEnd => close kind text replay.pending
  | _ => some replay.pending

/-- Follows one token. -/
def step (source : Source) (replay : Replay) (token : Token) : Option Replay :=
  (replay.next token.kind token.span.start (source.slice token.span)).map fun pending =>
    ⟨some token.kind, pending⟩

end Replay

/-- Follows the tokens of a source from its start. -/
def replay (source : Source) (tokens : List Token) : Option Replay :=
  tokens.foldlM (Replay.step source) .initial

theorem replay_snoc {source : Source} {tokens : List Token} {token : Token} {state : Replay}
    (h : replay source tokens = some state) :
    replay source (tokens ++ [token]) = state.step source token := by
  rw [replay, List.foldlM_append, ← replay, h]
  simp

/-! ## Frames that wait for an end -/

/-- What is opened by a literal between single delimiters. -/
def Literal.construct : Literal → Construct
  | .sigil => .sigil
  | .string => .string
  | .charList => .charList

/-- What is opened by a heredoc. -/
def Heredoc.construct (heredoc : Heredoc) : Construct :=
  if heredoc.literal = .sigil then .sigilHeredoc else .heredoc

/-- The construct that a frame stands for.  A sigil in front of its modifiers has its end. -/
def Frame.pending? (frame : Frame) : Option Pending :=
  match frame.mode with
  | .initial | .sigilModifiers => none
  | .sigilName | .sigilDelimiter _ => some ⟨.sigil, frame.openedAt, []⟩
  | .group group => some ⟨group.literal.construct, frame.openedAt, [group.opener]⟩
  | .heredocOpen heredoc | .heredocBody heredoc =>
      some ⟨heredoc.construct, frame.openedAt, [heredoc.quote, heredoc.quote, heredoc.quote]⟩
  | .interpolation _ => some ⟨.interpolation, frame.openedAt, ['#', '{']⟩

/-- The mode behind the letter of a sigil. -/
def Mode.awaitsDelimiter : Mode → Bool
  | .sigilDelimiter _ => true
  | _ => false

/-- What the tokens tell about a stack: what its frames wait for, and whether the delimiter of a
sigil is next. -/
structure Follows (replay : Replay) (stack : Stack) : Prop where
  pending_eq : replay.pending = stack.above.filterMap Frame.pending?
  previous_iff : replay.previous = some .sigilName ↔ stack.top.mode.awaitsDelimiter

/-! ## What a reading does to the pending constructs -/

section

variable {cursor : Cursor} {mode : Mode} {found : Match} {replay : Replay} {outer : List Pending}
  {openedAt start : Nat}

theorem Replay.next_of_isPlain {kind : Kind} {text : List Char} (h : kind.isPlain) :
    replay.next kind start text = some replay.pending := by
  cases kind <;> first | rfl | simp [Kind.isPlain] at h

theorem Replay.next_of_bodyKind {literal : Literal} {text : List Char} :
    replay.next literal.bodyKind start text = some replay.pending := by
  cases literal <;> rfl

/-- A token that leaves the stack alone leaves the pending constructs alone. -/
theorem Reading.next_of_stay (h : Reading cursor mode found)
    (htransition : found.transition = .stay) (replay : Replay) (start : Nat) (text : List Char) :
    replay.next found.kind start text = some replay.pending ∧ found.kind ≠ .sigilName := by
  cases h with
  | plain hmode hkind hpos hle hbrace =>
      refine ⟨Replay.next_of_isPlain hkind, ?_⟩
      rintro rfl
      simp [Kind.isPlain] at hkind
  | badCharacter | sigilModifier | heredocTrailing | heredocEol | heredocLine =>
      exact ⟨rfl, by simp [Match.plain]⟩
  | @groupBody group hpos =>
      refine ⟨Replay.next_of_bodyKind, ?_⟩
      cases group.literal <;> simp [Match.moving, Literal.bodyKind]
  | _ => simp [Match.moving] at htransition

/-- A token that opens a construct makes it pending. -/
theorem Reading.next_of_push {inner : Mode} (h : Reading cursor mode found)
    (htransition : found.transition = .push inner)
    (hprevious : replay.previous = some .sigilName → mode.awaitsDelimiter) :
    (∃ pending, Frame.pending? ⟨inner, cursor.offset⟩ = some pending ∧
      replay.next found.kind cursor.offset (cursor.rest.take found.length) =
        some (pending :: replay.pending)) ∧
      found.kind ≠ .sigilName ∧ inner.awaitsDelimiter = false := by
  cases h with
  | @heredocOpening mode quote literal tail hmode hquote hrest =>
      obtain rfl := Transition.push.inj htransition
      -- A heredoc in code does not follow the letter of a sigil.
      have hcode : replay.previous ≠ some .sigilName := by
        intro hname
        have hawaits := hprevious hname
        cases mode <;> simp [Mode.awaitsDelimiter, Mode.isCode] at hawaits hmode
      have hconstruct : (Heredoc.opened literal quote true).construct = .heredoc :=
        if_neg (ne_sigil_of_quotedLiteral? hquote)
      refine ⟨⟨_, rfl, ?_⟩, by simp [Match.moving], rfl⟩
      rw [hconstruct, hrest]
      simp [Replay.next, Match.moving, hcode, Heredoc.opened]
  | @quoteOpening mode quote literal tail hmode hquote hrest hsingle =>
      obtain rfl := Transition.push.inj htransition
      have hliteral := ne_sigil_of_quotedLiteral? hquote
      cases literal with
      | sigil => exact absurd rfl hliteral
      | string | charList =>
          refine ⟨⟨_, rfl, ?_⟩, by simp [Match.moving, Literal.promoterKind], rfl⟩
          rw [hrest]
          rfl
  | sigilOpening hmode hrest hletter hdelimiter =>
      obtain rfl := Transition.push.inj htransition
      exact ⟨⟨_, rfl, rfl⟩, by simp, rfl⟩
  | groupInterpolation hinterpolating hrest | heredocInterpolation hinterpolating hrest hopen =>
      obtain rfl := Transition.push.inj htransition
      refine ⟨⟨_, rfl, ?_⟩, by simp [Match.moving], rfl⟩
      rw [hrest]
      rfl
  | _ => simp [Match.plain, Match.moving] at htransition

/-- The closer of a group closes what its opener opened. -/
theorem next_of_groupTerminator {group : Group} {tail : List Char}
    (hcloser : group.closer = closingDelimiter group.opener)
    (hrest : cursor.rest = group.closer :: tail)
    (hpending : replay.pending =
      ⟨group.literal.construct, openedAt, [group.opener]⟩ :: outer) :
    replay.next group.literal.terminatorKind start (cursor.rest.take 1) = some outer := by
  have htext : cursor.rest.take 1 = [closingDelimiter group.opener] := by
    rw [hrest, hcloser]
    rfl
  rw [htext]
  cases hliteral : group.literal <;>
    simp [Replay.next, Replay.close, Literal.terminatorKind, Literal.construct, hpending, hliteral,
      Construct.terminatorKind, Pending.isClosedBy]

/-- Three quotes close a heredoc behind any indentation. -/
theorem Pending.isClosedBy_append {heredoc : Heredoc} {quote : Char} {start : Nat}
    (front : List Char) :
    Pending.isClosedBy ⟨heredoc.construct, start, [quote, quote, quote]⟩
      (front ++ [quote, quote, quote]) := by
  have hdrop : (front ++ [quote, quote, quote]).drop
      ((front ++ [quote, quote, quote]).length - 3) = [quote, quote, quote] := by
    simp
  have hconstruct : heredoc.construct = .sigilHeredoc ∨ heredoc.construct = .heredoc := by
    unfold Heredoc.construct
    split
    · exact .inl rfl
    · exact .inr rfl
  rcases hconstruct with hsigil | hplain
  · rw [hsigil]
    exact beq_iff_eq.mpr hdrop
  · rw [hplain]
    exact beq_iff_eq.mpr hdrop

/-- The line that closes a heredoc ends in the three quotes that opened it. -/
theorem next_of_heredocTerminator {heredoc : Heredoc} {width : Nat}
    (hwidth : terminatorIndent? heredoc.quote cursor.rest = some width)
    (hpending : replay.pending = ⟨heredoc.construct, openedAt,
      [heredoc.quote, heredoc.quote, heredoc.quote]⟩ :: outer) :
    replay.next .heredocTerminator start (cursor.rest.take (width + 3)) = some outer := by
  obtain ⟨rfl, tail, hrest⟩ := eq_of_terminatorIndent? hwidth
  have htext : cursor.rest.take (indentWidth cursor.rest + 3) =
      cursor.rest.takeWhile isIndent ++ [heredoc.quote, heredoc.quote, heredoc.quote] := by
    conv => lhs; arg 2; rw [hrest]
    rw [indentWidth, List.take_append, List.take_of_length_le (Nat.le_add_right _ _)]
    simp
  have hkind : heredoc.construct.terminatorKind = .heredocTerminator := by
    unfold Heredoc.construct
    split <;> rfl
  rw [htext]
  show Replay.close _ _ replay.pending = some outer
  rw [hpending]
  exact if_pos ⟨hkind, Pending.isClosedBy_append _⟩

/-- A token behind which its construct is left closes that construct. -/
theorem Reading.next_of_pop (h : Reading cursor mode found) (htransition : found.transition = .pop)
    (hopened : mode.OpenedBy (cursor.text.drop openedAt))
    (hpending : ∀ pending, Frame.pending? ⟨mode, openedAt⟩ = some pending →
      replay.pending = pending :: outer) (start : Nat) :
    replay.next found.kind start (cursor.rest.take found.length) = some outer ∧
      found.kind ≠ .sigilName := by
  cases h with
  | interpolationEnd hrest =>
      refine ⟨?_, by simp [Match.moving]⟩
      simp [Replay.next, Replay.close, Match.moving, hpending _ rfl, Construct.terminatorKind,
        Pending.isClosedBy]
  | @groupTerminator group tail hdepth hcloser =>
      refine ⟨next_of_groupTerminator hopened.2.2.1 hcloser (hpending _ rfl), ?_⟩
      cases group.literal <;> simp [Match.moving, Literal.terminatorKind]
  | @heredocTerminator heredoc width hstart hwidth =>
      exact ⟨next_of_heredocTerminator hwidth (hpending _ rfl), by simp⟩
  | _ => simp [Match.plain, Match.moving] at htransition

/-- A token behind which its construct goes on in another mode delimits the construct, closes it in
front of its modifiers, or leaves it alone. -/
theorem Reading.next_of_replace {following : Mode} (h : Reading cursor mode found)
    (htransition : found.transition = .replace following)
    (hopened : mode.OpenedBy (cursor.text.drop openedAt))
    (hpending : ∀ pending, Frame.pending? ⟨mode, openedAt⟩ = some pending →
      replay.pending = pending :: outer)
    (hprevious : replay.previous = some .sigilName ↔ mode.awaitsDelimiter) (start : Nat) :
    replay.next found.kind start (cursor.rest.take found.length) =
        some ((Frame.pending? ⟨following, openedAt⟩).toList ++ outer) ∧
      (found.kind = .sigilName ↔ following.awaitsDelimiter) := by
  cases h with
  | openBrace hrest | closeBrace hrest =>
      obtain rfl := Transition.replace.inj htransition
      refine ⟨?_, by simp [Match.moving, Mode.awaitsDelimiter]⟩
      exact congrArg some (hpending _ rfl)
  | sigilName hrest hletter =>
      obtain rfl := Transition.replace.inj htransition
      refine ⟨?_, by simp [Match.moving, Mode.awaitsDelimiter]⟩
      exact congrArg some (hpending _ rfl)
  | @sigilHeredoc interpolating quote literal tail hquote hrest =>
      obtain rfl := Transition.replace.inj htransition
      have hname : replay.previous = some .sigilName := hprevious.mpr rfl
      refine ⟨?_, by simp [Match.moving, Mode.awaitsDelimiter]⟩
      simp [Replay.next, Replay.delimit, Match.moving, hname, hpending _ rfl, hrest,
        Heredoc.opened, Heredoc.construct, Frame.pending?]
  | @sigilDelimiter interpolating opener tail hrest hopener hsingle =>
      obtain rfl := Transition.replace.inj htransition
      refine ⟨?_, by simp [Match.moving, Mode.awaitsDelimiter]⟩
      simp [Replay.next, Replay.delimit, Match.moving, hpending _ rfl, hrest, Group.sigil,
        Literal.construct, Frame.pending?]
  | @groupTerminator group tail hdepth hcloser =>
      obtain ⟨hliteral, -, rfl⟩ := eq_of_closing_eq_replace htransition
      refine ⟨next_of_groupTerminator hopened.2.2.1 hcloser (hpending _ rfl), ?_⟩
      simp [Match.moving, Mode.awaitsDelimiter, hliteral, Literal.terminatorKind]
  | @groupBody group hpos =>
      obtain rfl := Group.eq_of_deepened_eq_replace htransition
      refine ⟨Replay.next_of_bodyKind.trans (congrArg some (hpending _ rfl)), ?_⟩
      cases hliteral : group.literal <;>
        simp [Match.moving, Mode.awaitsDelimiter, Literal.bodyKind]
  | heredocOpeningEol hpos =>
      obtain rfl := Transition.replace.inj htransition
      refine ⟨?_, by simp [Match.moving, Mode.awaitsDelimiter]⟩
      exact congrArg some (hpending _ rfl)
  | @heredocTerminator heredoc width hstart hwidth =>
      obtain ⟨-, -, rfl⟩ := eq_of_closing_eq_replace htransition
      refine ⟨next_of_heredocTerminator hwidth (hpending _ rfl), ?_⟩
      simp [Mode.awaitsDelimiter]
  | _ => simp [Match.plain, Match.moving] at htransition

end

/-! ## Steps -/

theorem Mode.awaitsDelimiter_eq_false {mode : Mode} (h : mode.isSigilHead = false) :
    mode.awaitsDelimiter = false := by
  cases mode with
  | sigilDelimiter interpolating => exact absurd h (by simp [Mode.isSigilHead])
  | _ => rfl

/-- Nothing that lies beneath a frame waits for the delimiter of a sigil. -/
theorem Shaped.awaitsDelimiter_beneath {text : List Char} {offset : Nat} {frame : Frame}
    {below : List Frame} (h : Shaped text offset (frame :: below)) (base : Nat) :
    (Stack.top ⟨below, base⟩).mode.awaitsDelimiter = false := by
  cases below with
  | nil => rfl
  | cons lower lowest =>
      have hlies := h.nested.2.1
      exact Mode.awaitsDelimiter_eq_false hlies.isSigilHead_eq_false

namespace Follows

variable {replay : Replay} {stack : Stack}

theorem pending_cons {frame : Frame} {below : List Frame} {base : Nat} {pending : Pending}
    (h : Follows replay ⟨frame :: below, base⟩) (hframe : frame.pending? = some pending) :
    replay.pending = pending :: below.filterMap Frame.pending? := by
  rw [h.pending_eq]
  exact List.filterMap_cons_some hframe

/-- A frame that gives way waits for no end. -/
theorem of_append {gone kept : List Frame} {base : Nat}
    (h : Follows replay ⟨gone ++ kept, base⟩) (hgone : gone = [] ∨
      ∃ frame, gone = [frame] ∧ frame.mode = .sigilModifiers)
    (hkept : gone ≠ [] → (Stack.top ⟨kept, base⟩).mode.awaitsDelimiter = false) :
    Follows replay ⟨kept, base⟩ := by
  rcases hgone with rfl | ⟨frame, rfl, hmode⟩
  · exact h
  · refine ⟨?_, ?_⟩
    · rw [h.pending_eq]
      simp [Frame.pending?, hmode]
    · rw [h.previous_iff, hkept (by simp)]
      simp [Stack.top, hmode, Mode.awaitsDelimiter]

/-- What a reading makes of the frames is what its token makes of the pending constructs. -/
theorem apply {cursor : Cursor} {kept : List Frame} {base : Nat} {found : Match}
    (h : Follows replay ⟨kept, base⟩) (hshaped : Shaped cursor.text cursor.offset kept)
    (hreading : Reading cursor (Stack.top ⟨kept, base⟩).mode found)
    (happly : Stack.apply ⟨kept, base⟩ found.transition cursor.offset = .ok stack) :
    ∃ pending, replay.next found.kind cursor.offset (cursor.rest.take found.length) = some pending ∧
      Follows ⟨some found.kind, pending⟩ stack := by
  -- The frames change by the transition and the constructs by the kind of the token.
  cases htransition : found.transition with
  | stay =>
      rw [htransition] at happly
      obtain rfl := Except.ok.inj happly
      obtain ⟨hnext, hkind⟩ := hreading.next_of_stay htransition replay cursor.offset
        (cursor.rest.take found.length)
      have hhead := hreading.isSigilHead_eq_false_of_stay htransition
      refine ⟨_, hnext, h.pending_eq, ?_⟩
      simp [hkind, Mode.awaitsDelimiter_eq_false hhead]
  | push inner =>
      rw [htransition] at happly
      obtain rfl := Except.ok.inj happly
      obtain ⟨⟨pending, hpending, hnext⟩, hkind, hawaits⟩ :=
        hreading.next_of_push htransition h.previous_iff.mp
      refine ⟨_, hnext, ?_, ?_⟩
      · rw [h.pending_eq]
        simp [Stack.push, hpending]
      · simp [hkind, hawaits]
  | pop =>
      rw [htransition] at happly
      obtain ⟨frame, hkept, -⟩ := Stack.exists_of_apply_pop happly
      obtain rfl : kept = frame :: stack.above := hkept
      obtain ⟨hnext, hkind⟩ := hreading.next_of_pop htransition hshaped.nested.1
        (fun _ hframe => h.pending_cons hframe) cursor.offset
      refine ⟨_, hnext, rfl, ?_⟩
      have hbelow := hshaped.awaitsDelimiter_beneath stack.base
      simp [hkind, hbelow]
  | replace following =>
      rw [htransition] at happly
      obtain ⟨frame, below, hkept, rfl⟩ := Stack.exists_of_apply_replace happly
      obtain rfl : kept = frame :: below := hkept
      obtain ⟨hnext, hkind⟩ := hreading.next_of_replace htransition hshaped.nested.1
        (fun _ hframe => h.pending_cons hframe) h.previous_iff cursor.offset
      refine ⟨_, hnext, ?_, ?_⟩
      · cases hfollowing : Frame.pending? ⟨following, frame.openedAt⟩ with
        | none => simp [hfollowing]
        | some pending => simp [hfollowing]
      · rw [Option.some_inj]
        exact hkind

/-- The frames beneath those that give way are followed too. -/
theorem kept {lexer : Lexer} {gone kept : List Frame} (h : Follows replay lexer.stack)
    (hframes : Shaped lexer.cursor.text lexer.cursor.offset (gone ++ kept))
    (habove : lexer.stack.above = gone ++ kept)
    (hgone : ∀ frame ∈ gone, GivesWay lexer.cursor frame.mode) :
    Follows replay ⟨kept, lexer.stack.base⟩ := by
  have hstack : lexer.stack = ⟨gone ++ kept, lexer.stack.base⟩ := by
    rw [← habove]
  have hgone := hframes.gone_eq hgone
  rw [hstack] at h
  refine h.of_append hgone ?_
  intro hne
  rcases hgone with rfl | ⟨frame, rfl, -⟩
  · exact absurd rfl hne
  · exact hframes.awaitsDelimiter_beneath _

/-- One step of the lexer is followed by one step along its token. -/
theorem moves {text : List Char} {lexer : Lexer} {step : Step} (h : Follows replay lexer.stack)
    (hshaped : lexer.IsShaped text) (hmoves : lexer.Moves step) :
    ∃ next, replay.step (Source.ofList text) step.token = some next ∧
      Follows next step.lexer.stack := by
  obtain ⟨rfl, -, hframes⟩ := hshaped
  cases hmoves with
  | @mk gone kept found stack habove hgone hreading hfits happly =>
      rw [habove] at hframes
      have hkept := h.kept hframes habove hgone
      obtain ⟨pending, hnext, hfollows⟩ := hkept.apply hframes.of_append hreading happly
      refine ⟨_, ?_, hfollows⟩
      have hslice : (Source.ofList lexer.cursor.text).slice ⟨lexer.offset, found.length⟩ =
          lexer.cursor.rest.take found.length := by
        rw [lexer.cursor.rest_eq_drop]
        rfl
      show (replay.next found.kind lexer.offset ((Source.ofList lexer.cursor.text).slice
        ⟨lexer.offset, found.length⟩)).map _ = _
      rw [hslice, Lexer.offset, hnext]
      rfl

end Follows

/-- The tokens that are read can be followed, and lead to the frames. -/
theorem Lexer.Reads.follows {text : List Char} {options : Options} {last : Lexer}
    {tokens : List Token} (h : Reads (Lexer.ofText text options) tokens last) :
    ∃ state, replay (Source.ofList text) tokens = some state ∧ Follows state last.stack := by
  induction h with
  | refl => exact ⟨.initial, rfl, rfl, by simp [Replay.initial, Stack.top, Lexer.ofText,
      Stack.initial, Mode.awaitsDelimiter]⟩
  | snoc before hrest hstep ih =>
      obtain ⟨state, hstate, hfollows⟩ := ih
      have hshaped := (Lexer.IsShaped.ofText text options).reads before
      rw [replay_snoc hstate]
      exact hfollows.moves hshaped (moves_of_step hrest hstep)

/-! ## Whole texts -/

/-- Beneath the modifiers of a sigil every frame waits for an end. -/
theorem Shaped.map_pending? {text : List Char} {offset : Nat} {above : List Frame}
    (h : Shaped text offset above)
    (htop : ∀ frame, above.head? = some frame → frame.mode ≠ .sigilModifiers) :
    above.map Frame.pending? = (above.filterMap Frame.pending?).map some := by
  induction above generalizing offset with
  | nil => rfl
  | cons frame below ih =>
      -- Beneath the top no frame can be that of modifiers, so the hypothesis is kept.
      have hbelow := ih (h.beneath (Nat.le_refl _)) ?_
      · have hopened := h.nested.1
        have hmode := htop frame rfl
        obtain ⟨pending, hpending⟩ : ∃ pending, frame.pending? = some pending := by
          unfold Frame.pending?
          cases hcase : frame.mode with
          | initial => simp [hcase, Mode.OpenedBy] at hopened
          | sigilModifiers => exact absurd hcase hmode
          | _ => exact ⟨_, rfl⟩
        rw [List.map_cons, hbelow, hpending, List.filterMap_cons_some hpending, List.map_cons]
      · intro lower hlower hmode
        have hlies := h.nested.2.1
        rw [hlower] at hlies
        obtain ⟨-, hmodes⟩ := hlies
        simp [hmode, Mode.isInterpolation, Mode.isInterpolating] at hmodes

/-- The modifiers of a sigil wait for no end. -/
theorem filterMap_pending?_dropWhile (frames : List Frame) :
    (frames.dropWhile fun frame => frame.mode == .sigilModifiers).filterMap Frame.pending? =
      frames.filterMap Frame.pending? := by
  induction frames with
  | nil => rfl
  | cons frame below ih =>
      rw [List.dropWhile_cons]
      split
      · next hmode =>
          have hnone : frame.pending? = none := by
            simp [Frame.pending?, beq_iff_eq.mp hmode]
          rw [ih, List.filterMap_cons_none hnone]
      · rfl

/-- **The tokens replay the stack.**  The tokens of a text can be followed from its start to its
end: every token that closes something closes the innermost pending construct, which is of its own
kind, with the delimiter that belongs to the one that opened it.  What is pending at the end are
the frames above the initial one, in the same order, with the offsets at which they were opened. -/
theorem replay_tokenize (text : List Char) (options : Options) :
    ∃ lexed state above, tokenize options text = .ok lexed ∧
      replay lexed.source lexed.tokens = some state ∧
      lexed.finalFrames = ⟨.initial, 0⟩ :: above ∧
      above.map Frame.pending? = state.pending.reverse.map some := by
  obtain ⟨tokens, last, hreads, hlast, htokenize⟩ :=
    Lexer.exists_reads_of_tokenize text options
  obtain ⟨state, hstate, hfollows⟩ := hreads.follows
  have hshaped := ((Lexer.IsShaped.ofText text options).reads hreads).finish
  have hfinished : last.finished = false := hreads.finished
  have habove : last.finish.lexer.stack.above =
      last.stack.above.dropWhile fun frame => frame.mode == .sigilModifiers := by
    simp [Lexer.finish, hfinished, Lexer.withoutModifiers]
  have hmap := hshaped.shaped.map_pending? (by
    intro frame hframe hmode
    have hhead := List.head?_dropWhile_not (fun frame => frame.mode == .sigilModifiers)
      last.stack.above
    rw [← habove, hframe] at hhead
    simp [hmode] at hhead)
  refine ⟨_, state, last.finish.lexer.stack.above.reverse, htokenize, hstate, ?_, ?_⟩
  · rw [Stack.frames, hshaped.base_eq]
  · rw [List.map_reverse, hmap, habove, filterMap_pending?_dropWhile, ← hfollows.pending_eq,
      List.map_reverse]

end ElixirLexer
