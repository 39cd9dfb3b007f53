import ElixirLexer.Proofs.Reads

/-!
# The shape of the stack

What the frames of a lexer that was opened in plain code are at any time.  Literals and
interpolations take turns above the initial frame, every frame was opened further on in the text
than the one beneath it, and the text where it was opened shows what the mode remembers of its
construct: the delimiter, the closer and whether there can be interpolations.

`Shaped` is the invariant over the frames from the top, with the place at which the lexer stands
under a frame that waits for a piece of a sigil.  It is kept by every reading (`Shaped.apply`), by
every step and by the end of the text (`Lexer.IsShaped.step`).  Nothing is said about the width of
the indentation that a heredoc carries.
-/

namespace ElixirLexer

/-! ## What opens a construct -/

/-- The modes inside a literal or around one. -/
def Mode.isLiteral : Mode → Bool
  | .initial | .interpolation _ => false
  | _ => true

def Mode.isInterpolation : Mode → Bool
  | .interpolation _ => true
  | _ => false

/-- The modes behind the tilde or the letter of a sigil, in which the next character is known. -/
def Mode.isSigilHead : Mode → Bool
  | .sigilName | .sigilDelimiter _ => true
  | _ => false

/-- The characters that can delimit a literal. -/
def Literal.Admits (delimiter : Char) : Literal → Prop
  | .sigil => isSigilDelimiter delimiter
  | literal => quotedLiteral? delimiter = some literal

theorem Literal.Admits.isSigilDelimiter {literal : Literal} {delimiter : Char}
    (h : literal.Admits delimiter) : isSigilDelimiter delimiter := by
  cases literal with
  | sigil => exact h
  | string | charList => exact isSigilDelimiter_of_quotedLiteral? h

/-- A text begins with what opens a literal: its delimiter, for a sigil behind a tilde and a letter.
The letter says whether the sigil interpolates; the other literals always do. -/
def Literal.OpenedBy (text delimiter : List Char) (interpolating : Bool) : Literal → Prop
  | .sigil => ∃ letter, letter.isAlpha ∧ interpolating = letter.isLower ∧
      '~' :: letter :: delimiter <+: text
  | _ => interpolating = true ∧ delimiter <+: text

/-- A text begins with a tilde, this letter and a delimiter. -/
def BeginsSigil (letter : Char) (text : List Char) : Prop :=
  ∃ delimiter, letter.isAlpha ∧ isSigilDelimiter delimiter ∧ ['~', letter, delimiter] <+: text

/-- The letter of a sigil is the second of its characters, and its delimiter the third. -/
theorem BeginsSigil.drop_eq {letter : Char} {text : List Char} {offset : Nat}
    (h : BeginsSigil letter (text.drop offset)) :
    ∃ delimiter tail, isSigilDelimiter delimiter ∧
      text.drop offset = '~' :: letter :: delimiter :: tail ∧
      text.drop (offset + 1) = letter :: delimiter :: tail ∧
      text.drop (offset + 2) = delimiter :: tail := by
  obtain ⟨delimiter, -, hdelimiter, tail, htail⟩ := h
  refine ⟨delimiter, tail, hdelimiter, htail.symm, ?_, ?_⟩
  · rw [← List.drop_drop, ← htail]
    rfl
  · rw [← List.drop_drop, ← htail]
    rfl

/-- The text at the offset of a frame opens the construct of its mode. -/
def Mode.OpenedBy (text : List Char) : Mode → Prop
  | .initial => False
  | .sigilName | .sigilModifiers => ∃ letter, BeginsSigil letter text
  | .sigilDelimiter interpolating =>
      ∃ letter, BeginsSigil letter text ∧ interpolating = letter.isLower
  | .group body =>
      body.literal.Admits body.opener ∧
      body.literal.OpenedBy text [body.opener] body.interpolating ∧
      body.closer = closingDelimiter body.opener ∧ (body.depth = 0 ∨ body.nests)
  | .heredocOpen heredoc | .heredocBody heredoc =>
      (quotedLiteral? heredoc.quote).isSome ∧ heredoc.literal.Admits heredoc.quote ∧
      heredoc.literal.OpenedBy text [heredoc.quote, heredoc.quote, heredoc.quote]
        heredoc.interpolating
  | .interpolation _ => ['#', '{'] <+: text

/-- A quotation mark delimits the literal that it begins, and that literal interpolates. -/
theorem Literal.admits_of_quotedLiteral? {quote : Char} {literal : Literal}
    (h : quotedLiteral? quote = some literal) : literal.Admits quote ∧
      ∀ text delimiter, delimiter <+: text → literal.OpenedBy text delimiter true := by
  have hliteral := ne_sigil_of_quotedLiteral? h
  cases literal with
  | sigil => exact absurd rfl hliteral
  | string => exact ⟨h, fun text delimiter hprefix => ⟨rfl, hprefix⟩⟩
  | charList => exact ⟨h, fun text delimiter hprefix => ⟨rfl, hprefix⟩⟩

namespace Mode

variable {mode : Mode}

/-- What is opened is either a literal or an interpolation. -/
theorem isInterpolation_eq_not_isLiteral {text : List Char} (h : mode.OpenedBy text) :
    mode.isInterpolation = !mode.isLiteral := by
  cases mode with
  | initial => exact h.elim
  | _ => rfl

theorem isSigilHead_eq_false_of_isCode (h : mode.isCode) : mode.isSigilHead = false := by
  cases mode <;> simp_all [isCode, isSigilHead]

theorem isInterpolation_eq_false (h : mode.isLiteral) : mode.isInterpolation = false := by
  cases mode <;> simp_all [isInterpolation, isLiteral]

end Mode

/-! ## The invariant -/

/-- What a frame lies on: a literal on plain or interpolated code, and interpolated code on a
literal that interpolates.  The lower frame was opened first. -/
def Frame.LiesOn (frame : Frame) : Option Frame → Prop
  | none => frame.mode.isLiteral
  | some below => below.openedAt < frame.openedAt ∧
      (frame.mode.isLiteral ∧ below.mode.isInterpolation ∨
        frame.mode.isInterpolation ∧ below.mode.isInterpolating)

/-- The frames above the initial one, top first, belong to the text. -/
def Nested (text : List Char) : List Frame → Prop
  | [] => True
  | frame :: below => frame.mode.OpenedBy (text.drop frame.openedAt) ∧ frame.LiesOn below.head? ∧
      Nested text below

/-- The text at the offset of every frame opens the construct of its mode. -/
theorem Nested.openedBy {text : List Char} {above : List Frame} (h : Nested text above) :
    ∀ frame ∈ above, frame.mode.OpenedBy (text.drop frame.openedAt) := by
  induction above with
  | nil => simp
  | cons frame below ih =>
      obtain ⟨hopened, -, hbelow⟩ := h
      exact List.forall_mem_cons.mpr ⟨hopened, ih hbelow⟩

/-- No construct is plain code. -/
theorem Nested.ne_initial {text : List Char} {above : List Frame} (h : Nested text above) :
    ∀ frame ∈ above, frame.mode ≠ .initial := by
  intro frame hmem hinitial
  have hopened := h.openedBy frame hmem
  rw [hinitial] at hopened
  exact hopened

/-- How far behind the start of its construct the lexer stands under a frame. -/
def Frame.StandsAt (frame : Frame) (offset : Nat) : Prop :=
  match frame.mode with
  | .sigilName => offset = frame.openedAt + 1
  | .sigilDelimiter _ => offset = frame.openedAt + 2
  | _ => frame.openedAt < offset

/-- The frames above the initial one, top first, when the lexer stands at an offset of a text. -/
structure Shaped (text : List Char) (offset : Nat) (above : List Frame) : Prop where
  nested : Nested text above
  stands : ∀ frame, above.head? = some frame → frame.StandsAt offset

theorem Frame.StandsAt.openedAt_lt {frame : Frame} {offset : Nat} (h : frame.StandsAt offset) :
    frame.openedAt < offset := by
  unfold StandsAt at h
  split at h <;> omega

/-- A frame that stays on top while the lexer goes on. -/
theorem Frame.StandsAt.later {frame : Frame} {offset later : Nat} (h : frame.StandsAt offset)
    (hle : offset ≤ later) (hmode : frame.mode.isSigilHead = false) : frame.StandsAt later := by
  have hlt := h.openedAt_lt
  unfold StandsAt
  split
  · next hname => simp [hname, Mode.isSigilHead] at hmode
  · next hdelimiter => simp [hdelimiter, Mode.isSigilHead] at hmode
  · omega

/-- A frame with another on it is not waiting for a piece of a sigil. -/
theorem Frame.LiesOn.isSigilHead_eq_false {frame below : Frame} (h : frame.LiesOn (some below)) :
    below.mode.isSigilHead = false := by
  obtain ⟨-, hmodes⟩ := h
  cases hmode : below.mode with
  | sigilName => simp [hmode, Mode.isInterpolation, Mode.isInterpolating] at hmodes
  | sigilDelimiter => simp [hmode, Mode.isInterpolation, Mode.isInterpolating] at hmodes
  | _ => rfl

namespace Shaped

variable {text : List Char} {offset later : Nat} {above below : List Frame} {frame : Frame}
  {mode : Mode}

theorem nil : Shaped text offset [] where
  nested := trivial
  stands := by simp

/-- What lies beneath a frame is in order without it, from the place where the frame was opened. -/
theorem beneath (h : Shaped text offset (frame :: below)) (hle : frame.openedAt ≤ later) :
    Shaped text later below := by
  obtain ⟨hopened, hlies, hnested⟩ := h.nested
  refine ⟨hnested, ?_⟩
  intro lower hlower
  rw [hlower] at hlies
  -- A fixed distance is asked only of frames on which nothing lies.
  have hhead := hlies.isSigilHead_eq_false
  unfold Frame.StandsAt
  split
  · next hname => simp [hname, Mode.isSigilHead] at hhead
  · next hdelimiter => simp [hdelimiter, Mode.isSigilHead] at hhead
  · exact Nat.lt_of_lt_of_le hlies.1 hle

theorem pop (h : Shaped text offset (frame :: below)) (hle : offset ≤ later) :
    Shaped text later below :=
  h.beneath (Nat.le_trans (Nat.le_of_lt (h.stands frame rfl).openedAt_lt) hle)

theorem openedAt_lt (h : Shaped text offset above) : ∀ lower ∈ above, lower.openedAt < offset := by
  induction above generalizing offset with
  | nil => simp
  | cons frame below ih =>
      exact List.forall_mem_cons.mpr
        ⟨(h.stands frame rfl).openedAt_lt, ih (h.pop (Nat.le_refl _))⟩

/-- Inner constructs begin behind the beginnings of those around them. -/
theorem pairwise_openedAt (h : Shaped text offset above) :
    above.Pairwise fun inner outer => outer.openedAt < inner.openedAt := by
  induction above generalizing offset with
  | nil => exact .nil
  | cons frame below ih =>
      have hbelow := h.beneath (Nat.le_refl frame.openedAt)
      exact List.pairwise_cons.mpr ⟨hbelow.openedAt_lt, ih hbelow⟩

theorem stay (h : Shaped text offset above) (hle : offset ≤ later) {base : Nat}
    (hmode : (Stack.top ⟨above, base⟩).mode.isSigilHead = false) : Shaped text later above := by
  refine ⟨h.nested, ?_⟩
  intro frame hframe
  have htop : Stack.top ⟨above, base⟩ = frame := by
    simp [Stack.top, hframe]
  rw [htop] at hmode
  exact (h.stands frame hframe).later hle hmode

/-- A frame is put on top where its construct begins. -/
theorem push (h : Shaped text offset above) {base : Nat}
    (hopened : mode.OpenedBy (text.drop offset))
    (hon : mode.isLiteral ∧ (Stack.top ⟨above, base⟩).mode.isCode ∨
      mode.isInterpolation ∧ (Stack.top ⟨above, base⟩).mode.isInterpolating)
    (hstands : Frame.StandsAt ⟨mode, offset⟩ later) :
    Shaped text later (⟨mode, offset⟩ :: above) := by
  refine ⟨⟨hopened, ?_, h.nested⟩, by simpa using hstands⟩
  cases above with
  | nil =>
      rcases hon with ⟨hliteral, -⟩ | ⟨-, hbelow⟩
      · exact hliteral
      · exact absurd hbelow (by simp [Stack.top, Mode.isInterpolating])
  | cons lower lowest =>
      refine ⟨(h.stands lower rfl).openedAt_lt, ?_⟩
      rcases hon with ⟨hliteral, hcode⟩ | hinterpolation
      · -- Code above the initial frame is interpolated code.
        refine .inl ⟨hliteral, ?_⟩
        have hlower := h.nested.1
        replace hcode : lower.mode.isCode = true := hcode
        cases hmode : lower.mode with
        | initial => exact absurd hlower (by simp [hmode, Mode.OpenedBy])
        | interpolation depth => rfl
        | _ => simp [hmode, Mode.isCode] at hcode
      · exact .inr hinterpolation

/-- The frame on top gets another mode of the same construct. -/
theorem replace (h : Shaped text offset (frame :: below))
    (hopened : mode.OpenedBy (text.drop frame.openedAt))
    (hsame : mode.isLiteral = frame.mode.isLiteral)
    (hstands : Frame.StandsAt ⟨mode, frame.openedAt⟩ later) :
    Shaped text later ({ frame with mode } :: below) := by
  obtain ⟨hbefore, hlies, hnested⟩ := h.nested
  have hsame' : mode.isInterpolation = frame.mode.isInterpolation := by
    rw [Mode.isInterpolation_eq_not_isLiteral hopened,
      Mode.isInterpolation_eq_not_isLiteral hbefore, hsame]
  refine ⟨⟨hopened, ?_, hnested⟩, by simpa using hstands⟩
  cases hhead : below.head? with
  | none =>
      rw [hhead] at hlies
      exact hsame.trans hlies
  | some lower =>
      rw [hhead] at hlies
      obtain ⟨hlt, hmodes⟩ := hlies
      refine ⟨hlt, ?_⟩
      rw [← hsame, ← hsame'] at hmodes
      exact hmodes

/-- A frame that waits for the letter or the delimiter of its sigil finds it, so of the frames of a
shaped stack only that of modifiers gives way. -/
theorem mode_of_givesWay {cursor : Cursor}
    (h : Shaped cursor.text cursor.offset (frame :: below)) (hgives : GivesWay cursor frame.mode) :
    frame.mode = .sigilModifiers := by
  have hopened := h.nested.1
  have hstands := h.stands frame rfl
  have hrest := cursor.rest_eq_drop
  cases hmode : frame.mode with
  | sigilName =>
      -- The letter that the tilde insisted on is what is ahead now.
      rw [hmode] at hgives hopened
      obtain ⟨letter, hsigil⟩ := hopened
      obtain ⟨delimiter, tail, -, -, hletter, -⟩ := hsigil.drop_eq
      have hoffset : cursor.offset = frame.openedAt + 1 := by
        simpa [Frame.StandsAt, hmode] using hstands
      rw [hoffset, hletter] at hrest
      cases hgives with
      | sigilName hnone =>
          obtain ⟨_, halpha, _⟩ := hsigil
          simp [hrest, halpha] at hnone
  | sigilDelimiter interpolating =>
      rw [hmode] at hgives hopened
      obtain ⟨letter, hsigil, -⟩ := hopened
      obtain ⟨delimiter, tail, hdelimiter, -, -, htail⟩ := hsigil.drop_eq
      have hoffset : cursor.offset = frame.openedAt + 2 := by
        simpa [Frame.StandsAt, hmode] using hstands
      rw [hoffset, htail] at hrest
      cases hgives with
      | sigilDelimiter hnone => simp [hrest, hdelimiter] at hnone
  | sigilModifiers => rfl
  | _ =>
      rw [hmode] at hgives
      cases hgives

/-- At most one frame gives way, because code or an interpolating literal lies beneath it. -/
theorem gone_eq {cursor : Cursor} {gone kept : List Frame}
    (h : Shaped cursor.text cursor.offset (gone ++ kept))
    (hgone : ∀ frame ∈ gone, GivesWay cursor frame.mode) :
    gone = [] ∨ ∃ frame, gone = [frame] ∧ frame.mode = .sigilModifiers := by
  cases gone with
  | nil => exact .inl rfl
  | cons frame others =>
      obtain ⟨hfirst, hothers⟩ := List.forall_mem_cons.mp hgone
      have hmode := mode_of_givesWay h hfirst
      have hlast : others = [] := by
        cases others with
        | nil => rfl
        | cons second later =>
            -- The modes on which something lies are not those that give way.
            have hlies := h.nested.2.1.2
            have hsecond := hothers second List.mem_cons_self
            cases hmode : second.mode with
            | interpolation | group | heredocBody =>
                rw [hmode] at hsecond
                cases hsecond
            | _ => simp [hmode, Mode.isInterpolation, Mode.isInterpolating] at hlies
      rw [hlast]
      exact .inr ⟨frame, rfl, hmode⟩

end Shaped

/-! ## What a reading makes of the frames -/

/-- Delimiters that do not nest leave no opener waiting. -/
theorem depth_bodyReach {group : Group} {text : List Char} (h : group.nests = false) :
    (bodyReach group 0 text).depth = 0 := by
  generalize hdepth : 0 = depth
  fun_induction bodyReach group depth text <;> simp_all

namespace Reading

variable {cursor : Cursor} {mode next : Mode} {found : Match} {openedAt : Nat}

/-- What opens the body of a sigil opens a sigil. -/
theorem beginsSigil_of_openedBy {text delimiter : List Char} {opener : Char}
    {interpolating : Bool} (hadmits : isSigilDelimiter opener)
    (h : Literal.OpenedBy text (opener :: delimiter) interpolating .sigil) :
    ∃ letter, BeginsSigil letter text ∧ interpolating = letter.isLower := by
  obtain ⟨letter, halpha, hinterpolating, hprefix⟩ := h
  have hshort : ['~', letter, opener] <+: '~' :: letter :: opener :: delimiter := by
    simp
  exact ⟨letter, ⟨opener, halpha, hadmits, hshort.trans hprefix⟩, hinterpolating⟩

/-- A mode that takes the place of another belongs to the same construct. -/
theorem opened_of_replace (h : Reading cursor mode found)
    (htransition : found.transition = .replace next)
    (hopened : mode.OpenedBy (cursor.text.drop openedAt))
    (hstands : Frame.StandsAt ⟨mode, openedAt⟩ cursor.offset) :
    next.OpenedBy (cursor.text.drop openedAt) ∧ next.isLiteral = mode.isLiteral ∧
      Frame.StandsAt ⟨next, openedAt⟩ (cursor.offset + found.length) := by
  have hlt : openedAt < cursor.offset := hstands.openedAt_lt
  have hrest := cursor.rest_eq_drop
  cases h with
  | openBrace hbrace | closeBrace hbrace =>
      obtain rfl := Transition.replace.inj htransition
      exact ⟨hopened, rfl, Nat.lt_add_right _ hlt⟩
  | @sigilName letter tail hletter halpha =>
      obtain rfl := Transition.replace.inj htransition
      obtain ⟨first, hsigil⟩ := hopened
      obtain ⟨delimiter, behind, -, -, hsecond, -⟩ := hsigil.drop_eq
      have hoffset : cursor.offset = openedAt + 1 := hstands
      rw [hoffset, hsecond, hletter] at hrest
      obtain rfl : letter = first := (List.cons.inj hrest).1
      exact ⟨⟨letter, hsigil, rfl⟩, rfl, congrArg (· + 1) hoffset⟩
  | @sigilHeredoc interpolating quote literal tail hquote hmarker =>
      obtain rfl := Transition.replace.inj htransition
      obtain ⟨letter, hsigil, hinterpolating⟩ := hopened
      obtain ⟨delimiter, behind, -, hall, -, hthird⟩ := hsigil.drop_eq
      have hoffset : cursor.offset = openedAt + 2 := hstands
      rw [hoffset, hthird, hmarker] at hrest
      refine ⟨⟨?_, ?_, letter, ?_, hinterpolating, ?_⟩, rfl, Nat.lt_add_right _ hlt⟩
      · simp [Heredoc.opened, hquote]
      · exact isSigilDelimiter_of_quotedLiteral? hquote
      · obtain ⟨_, halpha, _⟩ := hsigil
        exact halpha
      · rw [hall, ← hrest]
        exact ⟨tail, rfl⟩
  | @sigilDelimiter interpolating opener tail hopener hdelimiter hsingle =>
      obtain rfl := Transition.replace.inj htransition
      obtain ⟨letter, hsigil, hinterpolating⟩ := hopened
      obtain ⟨delimiter, behind, -, hall, -, hthird⟩ := hsigil.drop_eq
      have hoffset : cursor.offset = openedAt + 2 := hstands
      rw [hoffset, hthird, hopener] at hrest
      refine ⟨⟨hdelimiter, ⟨letter, ?_, hinterpolating, ?_⟩, rfl, .inl rfl⟩, rfl,
        Nat.lt_add_right _ hlt⟩
      · obtain ⟨_, halpha, _⟩ := hsigil
        exact halpha
      · rw [hall, ← hrest]
        exact ⟨tail, rfl⟩
  | @groupTerminator group tail hdepth hcloser =>
      obtain ⟨hliteral, -, rfl⟩ := eq_of_closing_eq_replace htransition
      obtain ⟨hadmits, hliteralOpened, -, -⟩ := hopened
      rw [hliteral] at hadmits hliteralOpened
      obtain ⟨letter, hsigil, -⟩ := beginsSigil_of_openedBy hadmits hliteralOpened
      exact ⟨⟨letter, hsigil⟩, rfl, Nat.lt_add_right _ hlt⟩
  | @groupBody group hpos =>
      have hnext : next = .group { group with
          depth := (bodyReach group group.depth cursor.rest).depth } :=
        Group.eq_of_deepened_eq_replace htransition
      obtain ⟨hadmits, hliteralOpened, hcloser, hdepth⟩ := hopened
      rw [hnext]
      refine ⟨⟨hadmits, hliteralOpened, hcloser, ?_⟩, rfl, Nat.lt_add_right _ hlt⟩
      -- A body without nesting starts at depth zero and ends there.
      rcases hdepth with hdepth | hnests
      · cases hnests : group.nests with
        | false =>
            rw [hdepth]
            exact .inl (depth_bodyReach hnests)
        | true => exact .inr hnests
      · exact .inr hnests
  | @heredocOpeningEol heredoc hpos =>
      obtain rfl := Transition.replace.inj htransition
      exact ⟨hopened, rfl, Nat.lt_add_right _ hlt⟩
  | @heredocTerminator heredoc width hstart hwidth =>
      obtain ⟨hliteral, -, rfl⟩ := eq_of_closing_eq_replace htransition
      obtain ⟨-, hadmits, hliteralOpened⟩ := hopened
      rw [hliteral] at hadmits hliteralOpened
      obtain ⟨letter, hsigil, -⟩ := beginsSigil_of_openedBy hadmits hliteralOpened
      exact ⟨⟨letter, hsigil⟩, rfl, Nat.lt_add_right _ hlt⟩
  | _ => simp [Match.plain, Match.moving] at htransition

/-- A construct is opened where it begins, in a mode that can hold it. -/
theorem opened_of_push {inner : Mode} (h : Reading cursor mode found)
    (htransition : found.transition = .push inner) :
    inner.OpenedBy cursor.rest ∧
      (inner.isLiteral ∧ mode.isCode ∨ inner.isInterpolation ∧ mode.isInterpolating) ∧
      Frame.StandsAt ⟨inner, cursor.offset⟩ (cursor.offset + found.length) := by
  cases h with
  | @heredocOpening mode quote literal tail hmode hquote hmarker =>
      obtain rfl := Transition.push.inj htransition
      obtain ⟨hadmits, hopens⟩ := Literal.admits_of_quotedLiteral? hquote
      refine ⟨⟨?_, hadmits, hopens _ _ ?_⟩, .inl ⟨rfl, hmode⟩, ?_⟩
      · simp [Heredoc.opened, hquote]
      · exact ⟨tail, hmarker.symm⟩
      · simp [Frame.StandsAt, Match.moving]
  | @quoteOpening mode quote literal tail hmode hquote hrest hsingle =>
      obtain rfl := Transition.push.inj htransition
      obtain ⟨hadmits, hopens⟩ := Literal.admits_of_quotedLiteral? hquote
      refine ⟨⟨hadmits, hopens _ _ ⟨tail, hrest.symm⟩, ?_, .inl rfl⟩, .inl ⟨rfl, hmode⟩, ?_⟩
      · exact (closingDelimiter_of_quotedLiteral? hquote).symm
      · simp [Frame.StandsAt, Match.moving]
  | @sigilOpening mode letter delimiter tail hmode hrest hletter hdelimiter =>
      obtain rfl := Transition.push.inj htransition
      refine ⟨⟨letter, delimiter, hletter, hdelimiter, tail, hrest.symm⟩, .inl ⟨rfl, hmode⟩, rfl⟩
  | groupInterpolation hinterpolating hrest | heredocInterpolation hinterpolating hrest hopen =>
      obtain rfl := Transition.push.inj htransition
      refine ⟨?_, .inr ⟨rfl, hinterpolating⟩, by simp [Frame.StandsAt, Match.moving]⟩
      rw [hrest]
      exact ⟨_, rfl⟩
  | _ => simp [Match.plain, Match.moving] at htransition

/-- A frame that waits for a piece of a sigil does not outlast the next reading. -/
theorem isSigilHead_eq_false_of_stay (h : Reading cursor mode found)
    (htransition : found.transition = .stay) : mode.isSigilHead = false := by
  cases h with
  | plain hmode | badCharacter hmode => exact Mode.isSigilHead_eq_false_of_isCode hmode
  | heredocOpening hmode | quoteOpening hmode | sigilOpening hmode =>
      exact Mode.isSigilHead_eq_false_of_isCode hmode
  | sigilName | sigilHeredoc | sigilDelimiter => simp [Match.moving] at htransition
  | _ => rfl

end Reading

/-! ## Steps -/

namespace Shaped

/-- What a reading makes of the frames it is found under. -/
theorem apply {cursor : Cursor} {kept : List Frame} {base : Nat} {found : Match} {stack : Stack}
    (h : Shaped cursor.text cursor.offset kept)
    (hreading : Reading cursor (Stack.top ⟨kept, base⟩).mode found)
    (happly : Stack.apply ⟨kept, base⟩ found.transition cursor.offset = .ok stack) :
    Shaped cursor.text (cursor.offset + found.length) stack.above ∧ stack.base = base := by
  cases htransition : found.transition with
  | stay =>
      rw [htransition] at happly
      obtain rfl := Except.ok.inj happly
      exact ⟨h.stay (Nat.le_add_right _ _) (hreading.isSigilHead_eq_false_of_stay htransition), rfl⟩
  | push inner =>
      rw [htransition] at happly
      obtain rfl := Except.ok.inj happly
      obtain ⟨hopened, hon, hstands⟩ := hreading.opened_of_push htransition
      rw [cursor.rest_eq_drop] at hopened
      exact ⟨h.push hopened hon hstands, rfl⟩
  | pop =>
      rw [htransition] at happly
      obtain ⟨frame, hkept, hbase⟩ := Stack.exists_of_apply_pop happly
      obtain rfl : kept = frame :: stack.above := hkept
      exact ⟨h.pop (Nat.le_add_right _ _), hbase⟩
  | replace next =>
      rw [htransition] at happly
      obtain ⟨frame, below, hkept, rfl⟩ := Stack.exists_of_apply_replace happly
      obtain rfl : kept = frame :: below := hkept
      obtain ⟨hopened, hsame, hstands⟩ :=
        hreading.opened_of_replace htransition h.nested.1 (h.stands frame rfl)
      exact ⟨h.replace hopened hsame hstands, rfl⟩

/-- The frames beneath those that give way are shaped too. -/
theorem of_append {text : List Char} {offset : Nat} {gone kept : List Frame}
    (h : Shaped text offset (gone ++ kept)) : Shaped text offset kept := by
  induction gone with
  | nil => exact h
  | cons frame others ih => exact ih (h.pop (Nat.le_refl _))

end Shaped

namespace Lexer

/-- The invariant of a lexer that was opened in plain code at the start of a text. -/
structure IsShaped (text : List Char) (lexer : Lexer) : Prop where
  text_eq : lexer.cursor.text = text
  base_eq : lexer.stack.base = 0
  shaped : Shaped text lexer.offset lexer.stack.above

namespace IsShaped

variable {text : List Char} {lexer : Lexer}

theorem ofText (text : List Char) (options : Options) : IsShaped text (ofText text options) where
  text_eq := Cursor.text_ofText text
  base_eq := rfl
  shaped := .nil

/-- The initial frame is the one of the start of the text. -/
theorem stack_eq (h : IsShaped text lexer) : lexer.stack = ⟨lexer.stack.above, 0⟩ := by
  rw [← h.base_eq]

theorem moves {step : Step} (h : IsShaped text lexer) (hmoves : Moves lexer step) :
    IsShaped text step.lexer := by
  have htext := hmoves.text
  obtain ⟨rfl, hbase, hshaped⟩ := h
  cases hmoves with
  | mk habove hgone hreading hfits happly =>
      rw [habove] at hshaped
      have hlength := Nat.le_trans hfits.length_le hfits.extent_le
      obtain ⟨hnext, hsame⟩ := hshaped.of_append.apply hreading happly
      refine ⟨htext, hsame.trans hbase, ?_⟩
      show Shaped lexer.cursor.text (lexer.cursor.skip _).offset _
      rw [Cursor.offset_skip hlength]
      exact hnext

/-- The end of the text only takes the frame of modifiers off. -/
theorem finish (h : IsShaped text lexer) : IsShaped text lexer.finish.lexer := by
  unfold Lexer.finish
  split
  · exact h
  · refine ⟨h.text_eq, h.base_eq, ?_⟩
    show Shaped text lexer.offset
      (lexer.stack.above.dropWhile fun frame => frame.mode == .sigilModifiers)
    -- What is dropped lies on what is kept, like frames that give way.
    have hshaped := h.shaped
    rw [← lexer.stack.above.takeWhile_append_dropWhile
      (p := fun frame => frame.mode == .sigilModifiers)] at hshaped
    exact hshaped.of_append

theorem step {next : Step} (h : IsShaped text lexer) (hstep : lexer.step = .ok next) :
    IsShaped text next.lexer := by
  by_cases hrest : lexer.cursor.rest = []
  · obtain rfl := Except.ok.inj ((step_of_rest_nil hrest).symm.trans hstep)
    exact h.finish
  · exact h.moves (moves_of_step hrest hstep)

theorem reads {last : Lexer} {tokens : List Token} (h : IsShaped text lexer)
    (hreads : Reads lexer tokens last) : IsShaped text last := by
  induction hreads with
  | refl => exact h
  | snoc before hrest hstep ih => exact ih.step hstep

end IsShaped

end Lexer

end ElixirLexer
