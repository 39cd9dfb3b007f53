import Mathlib.Algebra.GroupWithZero.Nat
import ElixirLexer.Proofs.GroupBodies
import ElixirLexer.Proofs.StackShape
import ElixirLexer.Text.Source

/-!
# Counters of depth

Frames of interpolations count braces and frames of groups count delimiters.  A frame is buried by
others and comes back to the top many times before it is left, and its counter is written only by
the tokens that are read while it is on top.  Here every token is kept together with the frame it
was read under, and the counter of a frame is found again in the tokens of that frame alone
(`pull_counts`): braces of nested literals and nested interpolations are not among them.

No counter exceeds the number of characters behind the start of its construct.  So in a text shorter
than any power of two the counters fit into as many bits, within a body as well.
-/

namespace ElixirLexer

/-! ## Tokens and the frames they are read under -/

/-- A token with the frame that was on top when it was read. -/
structure Emission where
  frame : Frame
  token : Token

/-- Whether a token was read under a frame, whatever the frame had counted then.  A frame above the
initial one is known by the offset at which it was opened, because every token takes a character. -/
def Emission.isUnder (frame : Frame) (emission : Emission) : Bool :=
  emission.frame.openedAt == frame.openedAt && emission.frame.mode.id == frame.mode.id

/-- The tokens that were read while a frame was on top. -/
def Frame.tokens (past : List Emission) (frame : Frame) : List Token :=
  (past.filter (Emission.isUnder frame)).map Emission.token

/-- How many tokens are of a kind. -/
def countKind (kind : Kind) (tokens : List Token) : Nat :=
  tokens.countP fun token => token.kind == kind

/-- What is counted in all the pieces of the body of a group together. -/
def Group.inBodies (group : Group) (count : List Char → Nat) (source : Source)
    (tokens : List Token) : Nat :=
  ((tokens.filter fun token => token.kind == group.literal.bodyKind).map fun token =>
    count (source.slice token.span)).sum

/-- The counter of a frame is what the tokens read under it have opened and not closed. -/
def Frame.Counts (source : Source) (past : List Emission) (frame : Frame) : Prop :=
  match frame.mode with
  | .interpolation depth =>
      depth + countKind .closeBrace (frame.tokens past) =
        countKind .openBrace (frame.tokens past)
  | .group group =>
      group.depth + group.inBodies group.closersIn source (frame.tokens past) =
        group.inBodies group.openersIn source (frame.tokens past)
  | _ => True

/-- The counter that a mode carries. -/
def Mode.counter : Mode → Nat
  | .interpolation depth => depth
  | .group body => body.depth
  | _ => 0

namespace Lexer

/-- The frame under which the next token is read: the one on top when the frames that give way are
gone. -/
def reader (lexer : Lexer) : Frame :=
  if lexer.cursor.atEnd then lexer.stack.top
  else
    match choose lexer.cursor lexer.options lexer.stack.base lexer.stack.above with
    | .ok choice => choice.stack.top
    | .error _ => lexer.stack.top

/-- The tokens of so many steps with their frames, oldest first. -/
def emissions : Nat → Lexer → List Emission
  | 0, _ => []
  | count + 1, lexer =>
      match lexer.step with
      | .ok step => ⟨lexer.reader, step.token⟩ :: step.lexer.emissions count
      | .error _ => []

/-- These are the tokens that the lexer gives. -/
theorem map_token_emissions {count : Nat} {lexer : Lexer} {run : Run}
    (h : lexer.pull count = .ok run) :
    (lexer.emissions count).map Emission.token = run.tokens := by
  induction count generalizing lexer run with
  | zero =>
      obtain rfl := Except.ok.inj h
      rfl
  | succ count ih =>
      obtain ⟨step, hstep⟩ := exists_step lexer
      obtain ⟨later, hlater⟩ := exists_pull count step.lexer
      simp only [pull, hstep, hlater, bind, Except.bind, pure, Except.pure] at h
      obtain rfl := Except.ok.inj h
      simp [emissions, hstep, ih hlater]

/-- What a step before the end of the text does, with the frames it leaves alone: those in `gone`
give way, and the first of the others reads. -/
structure ReadsUnder (lexer : Lexer) (next : Step) (gone kept : List Frame) (found : Match) :
    Prop where
  above_eq : lexer.stack.above = gone ++ kept
  givesWay : ∀ frame ∈ gone, GivesWay lexer.cursor frame.mode
  reader_eq : lexer.reader = Stack.top ⟨kept, lexer.stack.base⟩
  reading : Reading lexer.cursor lexer.reader.mode found
  fits : found.Fits lexer.cursor.rest.length
  apply_eq : Stack.apply ⟨kept, lexer.stack.base⟩ found.transition lexer.offset =
    .ok next.lexer.stack
  cursor_eq : next.lexer.cursor = lexer.cursor.skip found.length
  token_eq : next.token =
    ⟨found.kind, ⟨lexer.offset, found.length⟩, next.lexer.stack.top.mode.id, found.indent⟩

theorem exists_readsUnder {lexer : Lexer} {next : Step} (hrest : lexer.cursor.rest ≠ [])
    (hstep : lexer.step = .ok next) : ∃ gone kept found, ReadsUnder lexer next gone kept found := by
  obtain ⟨gone, kept, found, habove, hgone, hreading, hchoose⟩ :=
    exists_choice lexer.options lexer.stack.base lexer.stack.above hrest
  have hfits := hreading.fits hrest
  obtain ⟨stack, happly⟩ := Stack.exists_apply lexer.offset hreading.suits
  have hreader : lexer.reader = Stack.top ⟨kept, lexer.stack.base⟩ := by
    simp [reader, Cursor.atEnd, hrest, hchoose]
  have hcarry :=
    step_eq_carryOut hrest hchoose (Nat.le_trans hfits.length_le hfits.extent_le) happly
  obtain rfl := Except.ok.inj (hcarry.symm.trans hstep)
  exact ⟨gone, kept, found, habove, hgone, hreader, hreader ▸ hreading, hfits, happly, rfl, rfl⟩

theorem ReadsUnder.length_le {lexer : Lexer} {next : Step} {gone kept : List Frame} {found : Match}
    (h : ReadsUnder lexer next gone kept found) : found.length ≤ lexer.cursor.rest.length :=
  Nat.le_trans h.fits.length_le h.fits.extent_le

theorem ReadsUnder.kind_eq {lexer : Lexer} {next : Step} {gone kept : List Frame} {found : Match}
    (h : ReadsUnder lexer next gone kept found) : next.token.kind = found.kind := by
  rw [h.token_eq]

/-- What every step shows of its token is shown of all tokens of a run. -/
theorem forall_emissions {holds : Lexer → Prop} {shows : Emission → Prop}
    (hkeeps : ∀ lexer next, holds lexer → lexer.step = .ok next →
      holds next.lexer ∧ shows ⟨lexer.reader, next.token⟩)
    (count : Nat) {lexer : Lexer} (h : holds lexer) :
    ∀ emission ∈ lexer.emissions count, shows emission := by
  induction count generalizing lexer with
  | zero => simp [emissions]
  | succ count ih =>
      obtain ⟨next, hstep⟩ := exists_step lexer
      obtain ⟨hnext, hshows⟩ := hkeeps lexer next h hstep
      simp only [emissions, hstep]
      exact List.forall_mem_cons.mpr ⟨hshows, ih hnext⟩

end Lexer

/-! ## One more token -/

/-- The kinds of the tokens by which counters change. -/
def Kind.isCounted : Kind → Bool
  | .openBrace | .closeBrace | .sigilBody | .stringBody | .charListBody => true
  | _ => false

section

variable {frame : Frame} {past : List Emission} {emission : Emission} {source : Source}
  {kind : Kind} {tokens : List Token} {token : Token} {group : Group} {count : List Char → Nat}

theorem Frame.tokens_snoc (h : emission.isUnder frame = true) :
    frame.tokens (past ++ [emission]) = frame.tokens past ++ [emission.token] := by
  simp [tokens, h]

theorem Frame.tokens_snoc_of_not (h : emission.isUnder frame = false) :
    frame.tokens (past ++ [emission]) = frame.tokens past := by
  simp [tokens, h]

theorem Frame.tokens_eq_nil (h : ∀ emission ∈ past, emission.isUnder frame = false) :
    frame.tokens past = [] := by
  rw [tokens, List.map_eq_nil_iff, List.filter_eq_nil_iff]
  intro emission hmem
  simp [h emission hmem]

theorem countKind_snoc : countKind kind (tokens ++ [token]) =
    countKind kind tokens + if token.kind = kind then 1 else 0 := by
  simp [countKind, List.countP_singleton]

theorem Group.inBodies_snoc : group.inBodies count source (tokens ++ [token]) =
    group.inBodies count source tokens +
      if token.kind = group.literal.bodyKind then count (source.slice token.span) else 0 := by
  unfold inBodies
  rw [List.filter_append, List.map_append, List.sum_append]
  by_cases hkind : token.kind = group.literal.bodyKind <;> simp [hkind]

theorem Frame.Counts.of_interpolation {depth : Nat} (h : frame.Counts source past)
    (hmode : frame.mode = .interpolation depth) :
    depth + countKind .closeBrace (frame.tokens past) =
      countKind .openBrace (frame.tokens past) := by
  unfold Counts at h
  rw [hmode] at h
  exact h

/-- A token of another kind changes no count. -/
theorem Frame.Counts.snoc (h : frame.Counts source past)
    (hkind : emission.isUnder frame → emission.token.kind.isCounted = false) :
    frame.Counts source (past ++ [emission]) := by
  cases hunder : emission.isUnder frame with
  | false =>
      unfold Counts at h ⊢
      rw [tokens_snoc_of_not hunder]
      exact h
  | true =>
      have hcounted := hkind hunder
      unfold Counts at h ⊢
      rw [tokens_snoc hunder]
      split
      · next hmode =>
          rw [hmode] at h
          have hopen : emission.token.kind ≠ .openBrace := by
            intro heq
            simp [heq, Kind.isCounted] at hcounted
          have hclose : emission.token.kind ≠ .closeBrace := by
            intro heq
            simp [heq, Kind.isCounted] at hcounted
          simpa [countKind_snoc, hopen, hclose] using h
      · next group hmode =>
          rw [hmode] at h
          have hbody : emission.token.kind ≠ group.literal.bodyKind := by
            intro heq
            cases hliteral : group.literal <;>
              simp [heq, hliteral, Literal.bodyKind, Kind.isCounted] at hcounted
          simpa [Group.inBodies_snoc, hbody] using h
      · trivial

end

/-! ## What a reading counts -/

/-- What holds of a frame when the emissions `past` lie behind an offset. -/
structure Frame.Tallied (source : Source) (past : List Emission) (offset : Nat) (frame : Frame) :
    Prop where
  counts : frame.Counts source past
  bound : frame.mode.counter + frame.openedAt ≤ offset
  /-- In front of the delimiter of a sigil nothing of its body has been read. -/
  unread : frame.mode.isSigilHead → ∀ emission ∈ past,
    emission.frame.openedAt = frame.openedAt → emission.frame.mode.id ≠ .group

/-- The mode of a frame behind a transition that does not pop it. -/
def Transition.leaves (mode : Mode) : Transition → Mode
  | .replace next => next
  | _ => mode

/-- A piece of the body leaves the group with its new depth, also where the depth is the old one. -/
theorem Group.leaves_deepened (group : Group) (depth : Nat) :
    (group.deepened depth).leaves (.group group) = .group { group with depth } := by
  unfold deepened
  split
  · next hdepth =>
      subst hdepth
      rfl
  · rfl

section

variable {frame : Frame} {past : List Emission} {emission : Emission} {source : Source}
  {offset later : Nat}

namespace Frame.Tallied

theorem snoc (h : frame.Tallied source past offset) (hle : offset ≤ later)
    (hkind : emission.isUnder frame → emission.token.kind.isCounted = false)
    (hhead : frame.mode.isSigilHead → emission.frame.openedAt = frame.openedAt →
      emission.frame.mode.id ≠ .group) :
    frame.Tallied source (past ++ [emission]) later where
  counts := h.counts.snoc hkind
  bound := Nat.le_trans h.bound hle
  unread := by
    intro hmode other hmem
    rcases List.mem_append.mp hmem with hmem | hmem
    · exact h.unread hmode other hmem
    · rw [List.mem_singleton.mp hmem]
      exact hhead hmode

/-- A token read under a frame that was opened elsewhere. -/
theorem other (h : frame.Tallied source past offset) (hle : offset ≤ later)
    (hother : emission.frame.openedAt ≠ frame.openedAt) :
    frame.Tallied source (past ++ [emission]) later := by
  refine h.snoc hle ?_ fun _ heq => absurd heq hother
  intro hunder
  simp [Emission.isUnder, hother] at hunder

/-- A token of the frame itself that is not counted. -/
theorem uncounted (h : frame.Tallied source past offset) (hle : offset ≤ later)
    (hframe : emission.frame = frame) (hkind : emission.token.kind.isCounted = false) :
    frame.Tallied source (past ++ [emission]) later := by
  refine h.snoc hle (fun _ => hkind) ?_
  rw [hframe]
  intro hhead _ hgroup
  cases hmode : frame.mode <;> simp [hmode, Mode.isSigilHead, Mode.id] at hhead hgroup

/-- A mode that counts nothing and is not the head of a sigil. -/
theorem of_uncounting {mode : Mode} {openedAt : Nat} (hle : openedAt ≤ later)
    (hmode : mode.counter = 0 ∧ mode.isSigilHead = false ∧ mode.id ≠ .interpolation ∧
      mode.id ≠ .group) :
    Frame.Tallied source past later ⟨mode, openedAt⟩ where
  counts := by
    obtain ⟨-, -, hinterpolation, hgroup⟩ := hmode
    unfold Counts
    cases mode <;> simp_all [Mode.id]
  bound := by simpa [hmode.1] using hle
  unread := by simp [hmode.2.1]

/-- A frame under which nothing has been read. -/
theorem fresh {mode : Mode} {openedAt : Nat} (hle : openedAt ≤ later)
    (hmode : mode.counter = 0 ∧ mode ≠ .initial)
    (hpast : ∀ emission ∈ past,
      emission.frame.mode = .initial ∨ emission.frame.openedAt ≠ openedAt) :
    Frame.Tallied source past later ⟨mode, openedAt⟩ where
  counts := by
    have hnone : Frame.tokens past ⟨mode, openedAt⟩ = [] := by
      refine Frame.tokens_eq_nil fun emission hmem => ?_
      rcases hpast emission hmem with hinitial | hother
      · cases mode <;> simp_all [Emission.isUnder, Mode.id]
      · simp [Emission.isUnder, hother]
    unfold Counts
    rw [hnone]
    cases mode <;> simp_all [Mode.counter, countKind, Group.inBodies]
  bound := by simpa [hmode.1] using hle
  unread := by
    intro hhead emission hmem heq
    rcases hpast emission hmem with hinitial | hother
    · simp [hinitial, Mode.id]
    · exact absurd heq hother

/-- A brace that is opened. -/
theorem openBrace {depth openedAt : Nat} {span : Span} {state : ModeId} {indent : Nat}
    (h : Frame.Tallied source past offset ⟨.interpolation depth, openedAt⟩) :
    Frame.Tallied source
      (past ++ [⟨⟨.interpolation depth, openedAt⟩, .openBrace, span, state, indent⟩]) (offset + 1)
      ⟨.interpolation (depth + 1), openedAt⟩ where
  counts := by
    have hcounts : depth + countKind .closeBrace _ = countKind .openBrace _ := h.counts
    show depth + 1 + countKind .closeBrace (Frame.tokens _ ⟨.interpolation depth, openedAt⟩) =
      countKind .openBrace (Frame.tokens _ ⟨.interpolation depth, openedAt⟩)
    rw [Frame.tokens_snoc (by simp [Emission.isUnder]), countKind_snoc, countKind_snoc]
    simp only [if_true]
    simp
    omega
  bound := by
    have hbound : depth + openedAt ≤ offset := h.bound
    show depth + 1 + openedAt ≤ offset + 1
    omega
  unread := by simp [Mode.isSigilHead]

/-- A brace that is closed. -/
theorem closeBrace {depth openedAt : Nat} {span : Span} {state : ModeId} {indent : Nat}
    (h : Frame.Tallied source past offset ⟨.interpolation (depth + 1), openedAt⟩) :
    Frame.Tallied source
      (past ++ [⟨⟨.interpolation (depth + 1), openedAt⟩, .closeBrace, span, state, indent⟩])
      (offset + 1) ⟨.interpolation depth, openedAt⟩ where
  counts := by
    have hcounts : depth + 1 + countKind .closeBrace _ = countKind .openBrace _ := h.counts
    show depth + countKind .closeBrace (Frame.tokens _ ⟨.interpolation (depth + 1), openedAt⟩) =
      countKind .openBrace (Frame.tokens _ ⟨.interpolation (depth + 1), openedAt⟩)
    rw [Frame.tokens_snoc (by simp [Emission.isUnder]), countKind_snoc, countKind_snoc]
    simp
    omega
  bound := by
    have hbound : depth + 1 + openedAt ≤ offset := h.bound
    show depth + openedAt ≤ offset + 1
    omega
  unread := by simp [Mode.isSigilHead]

/-- The delimiter in front of the body of a sigil. -/
theorem delimiter {interpolating : Bool} {openedAt : Nat} {token : Token} {group : Group}
    (h : Frame.Tallied source past offset ⟨.sigilDelimiter interpolating, openedAt⟩)
    (hle : offset ≤ later) (hdepth : group.depth = 0) :
    Frame.Tallied source (past ++ [⟨⟨.sigilDelimiter interpolating, openedAt⟩, token⟩]) later
      ⟨.group group, openedAt⟩ where
  counts := by
    have hnone : Frame.tokens
        (past ++ [⟨⟨.sigilDelimiter interpolating, openedAt⟩, token⟩]) ⟨.group group, openedAt⟩ =
          [] := by
      refine Frame.tokens_eq_nil fun emission hmem => ?_
      rcases List.mem_append.mp hmem with hmem | hmem
      · have hgroup := h.unread rfl emission hmem
        simpa [Emission.isUnder, Mode.id] using hgroup
      · rw [List.mem_singleton.mp hmem]
        simp [Emission.isUnder, Mode.id]
    show group.depth + group.inBodies _ source (Frame.tokens _ _) = group.inBodies _ source _
    rw [hnone, hdepth]
    rfl
  bound := by
    have hbound : 0 + openedAt ≤ offset := h.bound
    show group.depth + openedAt ≤ later
    omega
  unread := by simp [Mode.isSigilHead]

/-- A piece of the body of a group. -/
theorem body {text rest : List Char} {group : Group} {openedAt : Nat} {reach : Reach}
    {state : ModeId} {indent : Nat}
    (h : Frame.Tallied (Source.ofList text) past offset ⟨.group group, openedAt⟩)
    (hrest : rest = text.drop offset) (hends : group.EndsFirst group.depth rest reach) :
    Frame.Tallied (Source.ofList text)
      (past ++ [⟨⟨.group group, openedAt⟩, group.literal.bodyKind, ⟨offset, reach.length⟩, state,
        indent⟩])
      (offset + reach.length) ⟨.group { group with depth := reach.depth }, openedAt⟩ where
  counts := by
    have hcounts : group.depth + group.inBodies group.closersIn _ _ =
      group.inBodies group.openersIn _ _ := h.counts
    have hslice : (Source.ofList text).slice ⟨offset, reach.length⟩ = rest.take reach.length := by
      rw [hrest]
      rfl
    have hdepth := hends.depth_eq
    show reach.depth + group.inBodies group.closersIn _ (Frame.tokens _ ⟨.group group, openedAt⟩) =
      group.inBodies group.openersIn _ (Frame.tokens _ ⟨.group group, openedAt⟩)
    rw [Frame.tokens_snoc (by simp [Emission.isUnder]), Group.inBodies_snoc, Group.inBodies_snoc,
      if_pos rfl, if_pos rfl, hslice]
    omega
  bound := by
    have hbound : group.depth + openedAt ≤ offset := h.bound
    have hdepth := hends.depth_eq
    have hopeners := group.openersIn_le_length (rest.take reach.length)
    rw [List.length_take] at hopeners
    show reach.depth + openedAt ≤ offset + reach.length
    omega
  unread := by simp [Mode.isSigilHead]

/-- The end of a literal that waits for modifiers. -/
theorem closing {mode : Mode} {openedAt : Nat} {literal : Literal} {behind : List Char}
    (hle : openedAt ≤ later) (hpop : ElixirLexer.closing literal behind ≠ .pop) :
    Frame.Tallied source past later
      ⟨(ElixirLexer.closing literal behind).leaves mode, openedAt⟩ := by
  unfold ElixirLexer.closing at hpop ⊢
  split
  · exact .of_uncounting hle (by simp [Transition.leaves, Mode.counter, Mode.isSigilHead, Mode.id])
  · next hends => exact absurd (if_neg hends) hpop

end Frame.Tallied

/-- The frame on top stays tallied, whatever is read under it, unless it is left. -/
theorem Reading.tallied {cursor : Cursor} {found : Match} {state : ModeId}
    (h : Reading cursor frame.mode found)
    (htallied : frame.Tallied (Source.ofList cursor.text) past cursor.offset)
    (hpop : found.transition ≠ .pop) :
    Frame.Tallied (Source.ofList cursor.text)
      (past ++ [⟨frame, found.kind, ⟨cursor.offset, found.length⟩, state, found.indent⟩])
      (cursor.offset + found.length) ⟨found.transition.leaves frame.mode, frame.openedAt⟩ := by
  obtain ⟨mode, openedAt⟩ := frame
  have hle : cursor.offset ≤ cursor.offset + found.length := Nat.le_add_right _ _
  have hopened : openedAt ≤ cursor.offset + found.length :=
    Nat.le_trans (Nat.le_of_add_left_le htallied.bound) hle
  cases h with
  | @plain _ kind length hmode hkind hpos hlength hbrace =>
      rcases hbrace with rfl | ⟨hopen, hclose⟩
      · exact .of_uncounting hopened (by simp [Transition.leaves, Match.plain, Mode.counter,
          Mode.isSigilHead, Mode.id])
      · refine htallied.uncounted hle rfl ?_
        show kind.isCounted = false
        cases kind <;> simp_all [Kind.isPlain, Kind.isCounted]
  | @quoteOpening _ quote literal tail hmode hquote hrest hsingle =>
      cases literal <;> exact htallied.uncounted hle rfl rfl
  | @openBrace depth tail hrest => exact htallied.openBrace
  | @closeBrace depth tail hrest => exact htallied.closeBrace
  | interpolationEnd hrest => exact absurd rfl hpop
  | sigilName hrest hletter =>
      exact {
        counts := trivial
        bound := by simpa [Transition.leaves, Match.moving, Mode.counter] using hopened
        unread := fun _ => (htallied.uncounted hle rfl rfl).unread rfl }
  | sigilDelimiter hrest hopener hsingle => exact htallied.delimiter hle rfl
  | @groupTerminator group tail hdepth hrest => exact .closing hopened hpop
  | @heredocTerminator heredoc width hstart hwidth => exact .closing hopened hpop
  | @groupBody group hpos =>
      rw [show (Match.moving _ _ (group.deepened _)).transition.leaves (.group group) = _ from
        group.leaves_deepened _]
      exact htallied.body cursor.rest_eq_drop (group.bodyReach_endsFirst _ _)
  | heredocOpeningEol hpos | sigilHeredoc hquote hrest =>
      exact .of_uncounting hopened (by simp [Transition.leaves, Match.moving, Mode.counter,
        Mode.isSigilHead, Mode.id])
  | badCharacter hmode => exact htallied.uncounted hle rfl rfl
  | heredocOpening hmode hquote hrest => exact htallied.uncounted hle rfl rfl
  | sigilOpening hmode hrest hletter hdelimiter => exact htallied.uncounted hle rfl rfl
  | sigilModifier hrest hletter => exact htallied.uncounted hle rfl rfl
  | heredocTrailing hpos => exact htallied.uncounted hle rfl rfl
  | heredocEol hpos hopen => exact htallied.uncounted hle rfl rfl
  | groupInterpolation hinterpolating hrest => exact htallied.uncounted hle rfl rfl
  | heredocInterpolation hinterpolating hrest hopen => exact htallied.uncounted hle rfl rfl
  | heredocLine hpos hopen => exact htallied.uncounted hle rfl rfl

/-- What is opened has counted nothing. -/
theorem Reading.counter_of_push {cursor : Cursor} {mode inner : Mode} {found : Match}
    (h : Reading cursor mode found) (htransition : found.transition = .push inner) :
    inner.counter = 0 := by
  cases h with
  | heredocOpening | quoteOpening | sigilOpening | groupInterpolation | heredocInterpolation =>
      obtain rfl := Transition.push.inj htransition
      rfl
  | _ => simp [Match.plain, Match.moving] at htransition

/-- Only where nothing is counted as open does an interpolation end. -/
theorem Reading.mode_of_interpolationEnd {cursor : Cursor} {mode : Mode} {found : Match}
    (h : Reading cursor mode found) (hkind : found.kind = .interpolationEnd) :
    mode = .interpolation 0 := by
  cases h with
  | interpolationEnd hrest => rfl
  | @plain _ kind length hmode hplain hpos hlength hbrace =>
      obtain rfl : kind = .interpolationEnd := hkind
      simp [Kind.isPlain] at hplain
  | @quoteOpening _ quote literal tail hmode hquote hrest hsingle =>
      cases literal <;> simp [Match.moving, Literal.promoterKind] at hkind
  | @groupTerminator group tail hdepth hrest =>
      cases hliteral : group.literal <;>
        simp [Match.moving, Literal.terminatorKind, hliteral] at hkind
  | @groupBody group hpos =>
      cases hliteral : group.literal <;> simp [Match.moving, Literal.bodyKind, hliteral] at hkind
  | _ => simp [Match.plain, Match.moving] at hkind

/-- The frames beneath the one that reads were opened before it. -/
theorem Shaped.tallied_beneath {text : List Char} {source : Source} {start offset later : Nat}
    {below : List Frame} {emission : Emission} (h : Shaped text start (emission.frame :: below))
    (hframes : ∀ lower ∈ below, lower.Tallied source past offset) (hle : offset ≤ later) :
    ∀ lower ∈ below, lower.Tallied source (past ++ [emission]) later := by
  intro lower hmem
  have hlt := (h.beneath (Nat.le_refl emission.frame.openedAt)).openedAt_lt lower hmem
  exact (hframes lower hmem).other hle (Nat.ne_of_gt hlt)

/-- The frame that reads and those beneath it stay tallied, unless the frame is left. -/
theorem Shaped.tallied_leaves {cursor : Cursor} {found : Match} {below : List Frame}
    (state : ModeId) (h : Shaped cursor.text cursor.offset (frame :: below))
    (hframes : ∀ lower ∈ frame :: below,
      lower.Tallied (Source.ofList cursor.text) past cursor.offset)
    (hreading : Reading cursor frame.mode found) (hpop : found.transition ≠ .pop) :
    ∀ lower ∈ ⟨found.transition.leaves frame.mode, frame.openedAt⟩ :: below,
      lower.Tallied (Source.ofList cursor.text)
        (past ++ [⟨frame, found.kind, ⟨cursor.offset, found.length⟩, state, found.indent⟩])
        (cursor.offset + found.length) := by
  obtain ⟨hframe, hbelow⟩ := List.forall_mem_cons.mp hframes
  exact List.forall_mem_cons.mpr
    ⟨hreading.tallied hframe hpop, Shaped.tallied_beneath h hbelow (Nat.le_add_right _ _)⟩

/-- All frames stay tallied when the top one reads. -/
theorem Shaped.tallied_apply {cursor : Cursor} {kept : List Frame} {base : Nat} {found : Match}
    {stack : Stack} (state : ModeId) (h : Shaped cursor.text cursor.offset kept)
    (hpast : ∀ emission ∈ past,
      emission.frame.mode = .initial ∨ emission.frame.openedAt < cursor.offset)
    (hframes : ∀ frame ∈ kept, frame.Tallied (Source.ofList cursor.text) past cursor.offset)
    (hreading : Reading cursor (Stack.top ⟨kept, base⟩).mode found)
    (happly : Stack.apply ⟨kept, base⟩ found.transition cursor.offset = .ok stack) :
    ∀ frame ∈ stack.above, frame.Tallied (Source.ofList cursor.text)
      (past ++ [⟨Stack.top ⟨kept, base⟩, found.kind, ⟨cursor.offset, found.length⟩, state,
        found.indent⟩])
      (cursor.offset + found.length) := by
  have hle : cursor.offset ≤ cursor.offset + found.length := Nat.le_add_right _ _
  have hsame (hpop : found.transition ≠ .pop)
      (hleaves : ∀ mode, found.transition.leaves mode = mode) :
      ∀ frame ∈ kept, frame.Tallied (Source.ofList cursor.text)
        (past ++ [⟨Stack.top ⟨kept, base⟩, found.kind, ⟨cursor.offset, found.length⟩, state,
          found.indent⟩])
        (cursor.offset + found.length) := by
    cases kept with
    | nil => simp
    | cons frame below =>
        have hall := h.tallied_leaves state hframes hreading hpop
        rw [hleaves] at hall
        exact hall
  cases htransition : found.transition with
  | stay =>
      rw [htransition] at happly
      obtain rfl := Except.ok.inj happly
      exact hsame (by simp [htransition]) fun mode => by rw [htransition]; rfl
  | push inner =>
      rw [htransition] at happly
      obtain rfl := Except.ok.inj happly
      have hsuits := hreading.suits
      rw [htransition] at hsuits
      refine List.forall_mem_cons.mpr
        ⟨.fresh hle ⟨hreading.counter_of_push htransition, hsuits⟩ ?_,
          hsame (by simp [htransition]) fun mode => by rw [htransition]; rfl⟩
      intro emission hmem
      rcases List.mem_append.mp hmem with hmem | hmem
      · exact (hpast emission hmem).imp_right Nat.ne_of_lt
      · rw [List.mem_singleton.mp hmem]
        cases kept with
        | nil => exact .inl rfl
        | cons frame below => exact .inr (Nat.ne_of_lt (h.openedAt_lt frame List.mem_cons_self))
  | pop =>
      rw [htransition] at happly
      obtain ⟨frame, rfl, -⟩ := Stack.exists_of_apply_pop happly
      exact Shaped.tallied_beneath h (List.forall_mem_cons.mp hframes).2 hle
  | replace next =>
      rw [htransition] at happly
      obtain ⟨frame, below, rfl, rfl⟩ := Stack.exists_of_apply_replace happly
      have hall := h.tallied_leaves state hframes hreading (by simp [htransition])
      rw [htransition] at hall
      exact hall

end

/-! ## Runs -/

/-- The interpolations that have ended had closed all braces that they opened. -/
def EndsClosed (past : List Emission) : Prop :=
  ∀ before emission after, past = before ++ emission :: after →
    emission.token.kind = .interpolationEnd →
      emission.frame.mode = .interpolation 0 ∧
        countKind .openBrace (emission.frame.tokens before) =
          countKind .closeBrace (emission.frame.tokens before)

theorem EndsClosed.snoc {past : List Emission} {emission : Emission} (h : EndsClosed past)
    (hlast : emission.token.kind = .interpolationEnd → emission.frame.mode = .interpolation 0 ∧
      countKind .openBrace (emission.frame.tokens past) =
        countKind .closeBrace (emission.frame.tokens past)) : EndsClosed (past ++ [emission]) := by
  intro before other after hsplit hkind
  rcases List.eq_nil_or_concat after with rfl | ⟨front, last, rfl⟩
  · obtain ⟨rfl, hother⟩ := List.append_inj' hsplit rfl
    obtain rfl := List.singleton_inj.mp hother
    exact hlast hkind
  · rw [List.concat_eq_append, ← List.cons_append, ← List.append_assoc] at hsplit
    obtain ⟨hfront, -⟩ := List.append_inj' hsplit rfl
    exact h before other front hfront hkind

namespace Lexer

/-- What holds of a lexer behind the emissions `past` of a text. -/
structure Tallied (text : List Char) (past : List Emission) (lexer : Lexer) : Prop where
  shaped : IsShaped text lexer
  earlier : ∀ emission ∈ past,
    emission.frame.mode = .initial ∨ emission.frame.openedAt < lexer.offset
  frames : ∀ frame ∈ lexer.stack.above,
    frame.Tallied (Source.ofList text) past lexer.offset
  ends : EndsClosed past

namespace Tallied

variable {text : List Char} {past : List Emission} {lexer : Lexer}

theorem ofText (text : List Char) (options : Options) : Tallied text [] (ofText text options) where
  shaped := .ofText text options
  earlier := by simp
  frames := by simp [Lexer.ofText, Stack.initial]
  ends := by simp [EndsClosed]

/-- A step before the end of the text reads one more token under one of the frames. -/
theorem moves {next : Step} (h : Tallied text past lexer) (hrest : lexer.cursor.rest ≠ [])
    (hstep : lexer.step = .ok next) :
    Tallied text (past ++ [⟨lexer.reader, next.token⟩]) next.lexer := by
  have hnext := h.shaped.step hstep
  obtain ⟨⟨found, ⟨kept, base⟩, events⟩, stack, hchosen, hcarry⟩ := exists_chosen hrest
  obtain rfl := Except.ok.inj (hcarry.symm.trans hstep)
  have hreader : lexer.reader = Stack.top ⟨kept, base⟩ := by
    simp [reader, Cursor.atEnd, hrest, hchosen.choose_eq]
  have hreading : Reading lexer.cursor (Stack.top ⟨kept, base⟩).mode found := hchosen.reading
  obtain ⟨gone, habove⟩ := hchosen.above_eq
  replace habove : lexer.stack.above = gone ++ kept := habove
  obtain ⟨⟨rfl, hbase, hshaped⟩, hearlier, hframes, hends⟩ := h
  rw [habove] at hshaped
  have hkept := hshaped.of_append
  have hoffset : (lexer.cursor.skip found.length).offset = lexer.cursor.offset + found.length :=
    Cursor.offset_skip hchosen.length_le
  rw [hreader]
  exact {
    shaped := hnext
    earlier := by
      intro emission hmem
      show _ ∨ emission.frame.openedAt < (lexer.cursor.skip found.length).offset
      rw [hoffset]
      rcases List.mem_append.mp hmem with hmem | hmem
      · exact (hearlier emission hmem).imp_right fun hlt =>
          Nat.lt_of_lt_of_le hlt (Nat.le_add_right _ _)
      · rw [List.mem_singleton.mp hmem]
        cases kept with
        | nil => exact .inl rfl
        | cons frame below =>
            exact .inr (Nat.lt_of_lt_of_le (hkept.openedAt_lt frame List.mem_cons_self)
              (Nat.le_add_right _ _))
    frames := by
      show ∀ frame ∈ stack.above, frame.Tallied _ _ (lexer.cursor.skip found.length).offset
      rw [hoffset]
      refine hkept.tallied_apply _ hearlier ?_ hreading hchosen.apply_eq
      intro frame hmem
      exact hframes frame (by rw [habove]; exact List.mem_append_right _ hmem)
    ends := by
      refine hends.snoc fun hkind => ?_
      have hmode := hreading.mode_of_interpolationEnd hkind
      refine ⟨hmode, ?_⟩
      cases kept with
      | nil => simp [Stack.top] at hmode
      | cons frame below =>
          have hcounts := (hframes frame (by rw [habove]; simp)).counts
          replace hmode : frame.mode = .interpolation 0 := hmode
          exact ((Nat.zero_add _).symm.trans (hcounts.of_interpolation hmode)).symm }

/-- At the end of the text nothing is counted any more. -/
theorem finish (h : Tallied text past lexer) (hrest : lexer.cursor.rest = []) :
    Tallied text (past ++ [⟨lexer.reader, lexer.finish.token⟩]) lexer.finish.lexer := by
  have hreader : lexer.reader = lexer.stack.top := by
    simp [reader, Cursor.atEnd, hrest]
  have hkind : lexer.finish.token.kind = .endOfInput := by
    rw [finish_token]
    rfl
  have hoffset : lexer.finish.lexer.offset = lexer.offset := by
    rw [Lexer.offset, finish_cursor, Lexer.offset]
  have hkept : ∀ frame ∈ lexer.finish.lexer.stack.above, frame ∈ lexer.stack.above := by
    unfold Lexer.finish
    split
    · exact fun _ hmem => hmem
    · exact fun _ hmem => (List.dropWhile_sublist _).subset hmem
  have hshaped := h.shaped.shaped
  have hframes := h.frames
  rw [hreader]
  exact {
    shaped := h.shaped.finish
    earlier := by
      intro emission hmem
      rw [hoffset]
      rcases List.mem_append.mp hmem with hmem | hmem
      · exact h.earlier emission hmem
      · rw [List.mem_singleton.mp hmem]
        unfold Stack.top
        cases habove : lexer.stack.above with
        | nil => exact .inl rfl
        | cons top below => exact .inr (hshaped.openedAt_lt top (by simp [habove]))
    frames := by
      intro frame hmem
      rw [hoffset]
      replace hmem := hkept frame hmem
      have htallied := hframes frame hmem
      unfold Stack.top
      cases habove : lexer.stack.above with
      | nil => simp [habove] at hmem
      | cons top below =>
          rw [habove] at hmem hshaped
          rcases List.mem_cons.mp hmem with rfl | hmem
          · exact htallied.uncounted (Nat.le_refl _) rfl (by rw [hkind]; rfl)
          · exact Shaped.tallied_beneath hshaped
              (fun lower hlower => hframes lower (by simp [habove, hlower])) (Nat.le_refl _)
              frame hmem
    ends := h.ends.snoc fun heq => by simp [hkind] at heq }

theorem step {next : Step} (h : Tallied text past lexer) (hstep : lexer.step = .ok next) :
    Tallied text (past ++ [⟨lexer.reader, next.token⟩]) next.lexer := by
  by_cases hrest : lexer.cursor.rest = []
  · obtain rfl := Except.ok.inj ((step_of_rest_nil hrest).symm.trans hstep)
    exact h.finish hrest
  · exact h.moves hrest hstep

/-- What is counted is kept by any number of steps. -/
theorem pull {count : Nat} {run : Run} (h : Tallied text past lexer)
    (hpull : lexer.pull count = .ok run) :
    Tallied text (past ++ lexer.emissions count) run.lexer := by
  induction count generalizing lexer past run with
  | zero =>
      obtain rfl := Except.ok.inj hpull
      simpa [emissions] using h
  | succ count ih =>
      obtain ⟨next, hstep⟩ := exists_step lexer
      obtain ⟨later, hlater⟩ := exists_pull count next.lexer
      have hrun := ih (h.step hstep) hlater
      simp only [Lexer.pull, hstep, hlater, bind, Except.bind, pure, Except.pure] at hpull
      obtain rfl := Except.ok.inj hpull
      simpa [emissions, hstep] using hrun

end Tallied

end Lexer

/-! ## Counters that fit -/

/-- A counter stays below a limit, in front of the next brace of an interpolation as well as at
every place of the body of a group that is read next. -/
def Mode.CountsBelow (limit : Nat) (rest : List Char) : Mode → Prop
  | .interpolation depth => depth < limit ∧ (rest ≠ [] → depth + 1 < limit)
  | .group body => ∀ i ≤ (bodyReach body body.depth rest).length,
      body.closersIn (rest.take i) ≤ body.depth + body.openersIn (rest.take i) ∧
      body.depth + body.openersIn (rest.take i) - body.closersIn (rest.take i) < limit
  | _ => True

/-- A counter that is at most as large as the number of characters passed fits where the length of
the text fits. -/
theorem Mode.countsBelow_of_lt {mode : Mode} {rest : List Char} {limit : Nat}
    (h : mode.counter + rest.length < limit) : mode.CountsBelow limit rest := by
  cases mode with
  | interpolation depth =>
      replace h : depth + rest.length < limit := h
      refine ⟨by omega, fun hrest => ?_⟩
      have hpos := List.length_pos_iff.mpr hrest
      omega
  | group body =>
      replace h : body.depth + rest.length < limit := h
      intro i hi
      have hopeners := body.openersIn_le_length (rest.take i)
      rw [List.length_take] at hopeners
      refine ⟨(body.bodyReach_endsFirst body.depth rest).closersIn_le hi, ?_⟩
      omega
  | _ => trivial

/-- **Counters of depth count.**  After any number of steps from plain code, the counter of every
frame is what the tokens that were read under this very frame have opened and not closed.  It is at
most the number of characters behind the start of the construct, so in a text with fewer than 2³²
characters no counter leaves 32 bits, and none falls below zero.  An interpolation ends only where
its braces match. -/
theorem pull_counts (text : List Char) (options : Options) (count : Nat) :
    ∃ run past, (Lexer.ofText text options).pull count = .ok run ∧
      (Lexer.ofText text options).emissions count = past ∧
      past.map Emission.token = run.tokens ∧
      (∀ frame ∈ run.lexer.stack.frames, frame.Counts (Source.ofList text) past ∧
        frame.mode.counter + frame.openedAt ≤ run.lexer.offset ∧
        (∀ group, frame.mode = .group group → group.opener = group.closer → group.depth = 0) ∧
        (text.length < 2 ^ 32 → frame.mode.CountsBelow (2 ^ 32) run.lexer.cursor.rest)) ∧
      EndsClosed past := by
  obtain ⟨run, hrun⟩ := Lexer.exists_pull count (Lexer.ofText text options)
  have htallied := (Lexer.Tallied.ofText text options).pull hrun
  rw [List.nil_append] at htallied
  refine ⟨run, _, hrun, rfl, Lexer.map_token_emissions hrun, ?_, htallied.ends⟩
  obtain ⟨htext, hbase, hshaped⟩ := htallied.shaped
  have hlength := Cursor.offset_add_remaining run.lexer.cursor
  rw [htext] at hlength
  have hbelow (frame : Frame) (hbound : frame.mode.counter + frame.openedAt ≤ run.lexer.offset)
      (hshort : text.length < 2 ^ 32) : frame.mode.CountsBelow (2 ^ 32) run.lexer.cursor.rest := by
    refine Mode.countsBelow_of_lt ?_
    simp only [Lexer.offset, Cursor.remaining] at hbound hlength
    omega
  refine List.forall_mem_cons.mpr ⟨⟨trivial, ?_, by simp, fun _ => trivial⟩, ?_⟩
  · rw [hbase]
    exact Nat.zero_le _
  · intro frame hmem
    rw [List.mem_reverse] at hmem
    have hframe := htallied.frames frame hmem
    refine ⟨hframe.counts, hframe.bound, ?_, hbelow frame hframe.bound⟩
    intro group hmode hsame
    have hopened := hshaped.nested.openedBy frame hmem
    rw [hmode] at hopened
    refine hopened.2.2.2.resolve_right ?_
    simp [Group.nests, hsame]

/-- A parenthesis of the sigil and a brace of the code are open at the same time.  The brace in the
string is in no frame's count. -/
example :
    let text := ['~', 's', '(', '(', '#', '{', '{', '"', '{', '"', ';']
    ((Lexer.ofText text {}).pull 10).toOption.map (fun run => run.lexer.stack.above) =
      some [⟨.interpolation 1, 4⟩, ⟨.group ⟨.sigil, '(', ')', 1, true⟩, 0⟩] := by
  decide +kernel

end ElixirLexer
