import ElixirLexer.Proofs.Reports
import ElixirLexer.Proofs.Setting

/-!
# Reading a part of a text

What a lexer reads of a text alone, it reads of the text as a part of a longer one, moved
(`Setting.Embeds.reads`).  Every step is the same, with one exception: a brace of plain code changes
nothing there, and is counted in the mode where the part stands in an interpolation.  So the braces
of the part must not close more than they opened.

The reports of the part follow from its tokens (`Setting.reports_eq`).  A part that ends with a line
break of plain code leaves nothing open, and whatever follows it, the lexer comes to the end of the
part on the ground that it began on (`Setting.Embeds.exists_reads`).
-/

namespace ElixirLexer

/-- A token ends in front of the end of the text, or is a line break. -/
def Token.StopsShort (text : List Char) (token : Token) : Prop :=
  token.span.stop < text.length ∨ token.kind = .eol

/-! ## Transitions -/

/-- The same transition is carried out on top of other frames. -/
theorem Setting.exists_apply {setting : Setting} {kept upper : List Frame} {base offset : Nat}
    {found same : Match} {stack : Stack} (base' : Nat) (lower : List Frame)
    (hcarries : List.Forall₂ setting.Carries kept upper)
    (hresembles : found.Resembles setting.strict same)
    (happly : Stack.apply ⟨kept, base⟩ found.transition offset = .ok stack) :
    ∃ above, Stack.apply ⟨upper ++ lower, base'⟩ same.transition (offset + setting.lead.length) =
        .ok ⟨above ++ lower, base'⟩ ∧ List.Forall₂ setting.Carries stack.above above := by
  have htransition := hresembles.transition_eq
  cases hfound : found.transition <;> cases hsame : same.transition <;>
    simp only [hfound, hsame, Transition.map, reduceCtorEq] at htransition <;>
    rw [hfound] at happly
  case stay.stay =>
    obtain rfl := Except.ok.inj happly
    exact ⟨upper, rfl, hcarries⟩
  case push.push mode other =>
    obtain rfl := Except.ok.inj happly
    have hmode := Transition.push.inj htransition
    exact ⟨⟨other, offset + setting.lead.length⟩ :: upper, rfl, .cons ⟨hmode, rfl⟩ hcarries⟩
  case pop.pop =>
    obtain ⟨frame, hkept, -⟩ := Stack.exists_of_apply_pop happly
    obtain rfl : kept = frame :: stack.above := hkept
    cases hcarries with
    | cons hframe hbelow => exact ⟨_, rfl, hbelow⟩
  case replace.replace mode other =>
    obtain ⟨frame, below, hkept, rfl⟩ := Stack.exists_of_apply_replace happly
    obtain rfl : kept = frame :: below := hkept
    have hmode := Transition.replace.inj htransition
    cases hcarries with
    | @cons _ carried _ upperBelow hframe hbelow =>
        exact ⟨{ carried with mode := other } :: upperBelow, rfl,
          .cons ⟨hmode, hframe.openedAt_eq⟩ hbelow⟩

theorem Mode.id_ne_initial {mode : Mode} (h : mode ≠ .initial) : mode.id ≠ .initial := by
  cases mode <;> simp [id] at h ⊢

/-- The mode on top is the same, and on the ground it is the mode of the ground. -/
theorem Setting.id_top {setting : Setting} {above upper : List Frame}
    (hcarries : List.Forall₂ setting.Carries above upper)
    (hinitial : ∀ frame ∈ above, frame.mode ≠ .initial) (depth base base' : Nat) :
    (Stack.top ⟨upper ++ setting.ground.frames depth, base'⟩).mode.id =
      if (Stack.top ⟨above, base⟩).mode.id = .initial then setting.ground.state
      else (Stack.top ⟨above, base⟩).mode.id := by
  cases hcarries with
  | nil => cases hground : setting.ground <;> rfl
  | @cons frame other below upperBelow hframe hbelow =>
      have hid : other.mode.id = frame.mode.id := by
        rw [← Mode.id_seen setting.strict other.mode, hframe.mode_eq, Mode.id_seen]
      have hne := Mode.id_ne_initial (hinitial frame (List.mem_cons_self ..))
      simp [Stack.top, hid, hne]

/-! ## Braces -/

/-- Outside plain code a brace is counted in the mode. -/
theorem Reading.exists_replace_of_brace {cursor : Cursor} {mode : Mode} {found : Match}
    (h : Reading cursor mode found) (hmode : mode ≠ .initial)
    (hbrace : found.kind = .openBrace ∨ found.kind = .closeBrace) :
    ∃ depth, found.transition = .replace (.interpolation depth) := by
  cases h with
  | openBrace hrest => exact ⟨_, rfl⟩
  | closeBrace hrest => exact ⟨_, rfl⟩
  | plain hcode hkind hpos hle hnot =>
      obtain ⟨hopen, hclose⟩ := hnot.resolve_left hmode
      exact (hbrace.elim hopen hclose).elim
  | @quoteOpening mode quote literal tail hcode hquote hrest hsingle =>
      cases literal <;> simp [Match.moving, Literal.promoterKind] at hbrace
  | @groupTerminator body tail hdepth hrest =>
      cases hliteral : body.literal <;>
        simp [Match.moving, Literal.terminatorKind, hliteral] at hbrace
  | @groupBody body hpos =>
      cases hliteral : body.literal <;> simp [Match.moving, Literal.bodyKind, hliteral] at hbrace
  | _ => simp [Match.plain, Match.moving] at hbrace

/-- Where no brace of plain code is read, the number of open braces stays. -/
theorem Token.braces_eq_some {token : Token} (depth : Nat)
    (h : token.state = .initial → token.kind ≠ .openBrace ∧ token.kind ≠ .closeBrace) :
    token.braces depth = some depth := by
  unfold braces
  split
  · rfl
  · next hstate =>
      obtain ⟨hopen, hclose⟩ := h (by simpa using hstate)
      rw [if_neg hopen, if_neg hclose]

/-- A match that is found in the part is taken over as it is, or it is a brace that stands on the
ground and is counted there. -/
theorem Ground.count_cases {ground : Ground} {depth later base offset indent : Nat}
    {cursor : Cursor} {options : Options} {kept : List Frame} {found same : Match} {stack : Stack}
    {span : Span}
    (hreading : Reading cursor (Stack.top ⟨kept, base⟩).mode found)
    (hinitial : ∀ frame ∈ kept, frame.mode ≠ .initial)
    (hclass : classify cursor (Stack.top ⟨kept, base⟩).mode options = .emit found)
    (hkind : same.kind = found.kind)
    (happly : Stack.apply ⟨kept, base⟩ found.transition offset = .ok stack)
    (hcount : ground.count depth ⟨found.kind, span, stack.top.mode.id, indent⟩ = some later) :
    ground.adapt depth kept same = same ∧ later = depth ∨
      kept = [] ∧ found = Match.plain found.kind 1 ∧ ∃ openedAt lower,
        ground = .interpolation openedAt lower ∧
        ground.adapt depth kept same =
          Match.moving found.kind 1 (.replace (.interpolation later)) := by
  cases ground with
  | plain => exact .inl ⟨rfl, (Option.some.inj hcount).symm⟩
  | interpolation openedAt lower =>
      by_cases hbrace : found.kind = .openBrace ∨ found.kind = .closeBrace
      · cases kept with
        | nil =>
            have hfound := eq_plain_of_emit_brace hclass hbrace
            rw [hfound] at happly
            obtain rfl := Except.ok.inj happly
            refine .inr ⟨rfl, hfound, openedAt, lower, rfl, ?_⟩
            have hstate : (Stack.top ⟨[], base⟩).mode.id = .initial := rfl
            simp only [count, Token.braces, hstate] at hcount
            rcases hbrace with hopen | hclose
            · obtain rfl : depth + 1 = later := by simpa [hopen] using hcount
              simp [adapt, Match.counted, hkind, hopen]
            · by_cases hdepth : depth = 0
              · simp [hclose, hdepth] at hcount
              · obtain rfl : depth - 1 = later := by simpa [hclose, hdepth] using hcount
                simp [adapt, Match.counted, hkind, hclose, hdepth]
        | cons frame below =>
            obtain ⟨braces, hreplace⟩ := hreading.exists_replace_of_brace
              (hinitial frame (List.mem_cons_self ..)) hbrace
            rw [hreplace] at happly
            obtain rfl := Except.ok.inj happly
            rw [count, Token.braces_eq_some depth (by simp [Stack.top, Mode.id])] at hcount
            exact .inl ⟨by simp [adapt], (Option.some.inj hcount).symm⟩
      · have hsame : same.counted depth = same := by
          rw [not_or, ← hkind] at hbrace
          rw [Match.counted, if_neg hbrace.1, if_neg hbrace.2]
        rw [count, Token.braces_eq_some depth (fun _ => not_or.mp hbrace)] at hcount
        exact .inl ⟨by simp [adapt, hsame], (Option.some.inj hcount).symm⟩

/-! ## Steps -/

namespace Setting.Embeds

variable {setting : Setting} {text : List Char} {depth : Nat} {inner outer : Lexer}

/-- If both take a match of the same kind and length and come to stacks that match, they have read
the same token and stand at the same place. -/
theorem carryOut (h : setting.Embeds depth inner outer) {choice other : Choice} {stack : Stack}
    {upper : List Frame} (base later : Nat) (hkind : other.found.kind = choice.found.kind)
    (hlength : other.found.length = choice.found.length)
    (hindent : setting.strict = true ∨ choice.found.kind ≠ .heredocLine →
      other.found.indent = choice.found.indent)
    (hfits : choice.found.Fits inner.cursor.rest.length)
    (hinitial : ∀ frame ∈ stack.above, frame.mode ≠ .initial)
    (hcarries : List.Forall₂ setting.Carries stack.above upper) :
    let next := inner.carryOut choice stack
    let moved := outer.carryOut other ⟨upper ++ setting.ground.frames later, base⟩
    moved.token.seen setting.strict = (setting.token next.token).seen setting.strict ∧
      setting.Embeds later next.lexer moved.lexer := by
  intro next moved
  have hle := Nat.le_trans hfits.length_le hfits.extent_le
  have hstate := setting.id_top hcarries hinitial later stack.base base
  have hoffset := h.offset_eq
  constructor
  · cases hstrict : setting.strict with
    | true =>
        simp [next, moved, Lexer.carryOut, Token.seen, Setting.token, Token.inside, Token.moved,
          hkind, hlength, hindent (.inl hstrict), hoffset, hstate]
    | false =>
        by_cases hline : choice.found.kind = .heredocLine
        · simp [next, moved, Lexer.carryOut, Token.seen, Token.unindented, Setting.token,
            Token.inside, Token.moved, hkind, hlength, hline, hoffset, hstate]
        · simp [next, moved, Lexer.carryOut, Token.seen, Token.unindented, Setting.token,
            Token.inside, Token.moved, hkind, hlength, hindent (.inr hline), hoffset, hstate]
  · exact {
      before_eq := by
        simp [next, moved, Lexer.carryOut, Cursor.skip, hlength, h.rest_eq, h.before_eq,
          List.take_append_of_le_length hle]
      rest_eq := by
        simp [next, moved, Lexer.carryOut, Cursor.skip, hlength, h.rest_eq,
          List.drop_append_of_le_length hle]
      above_eq := ⟨upper, rfl, hcarries⟩
      start_eq := by
        refine .inl (List.ne_nil_of_length_pos ?_)
        have hoffset := Cursor.offset_skip hle
        have hpos := hfits.pos
        rw [Cursor.offset] at hoffset
        simp only [next, Lexer.carryOut]
        omega }

/-- A token that is read alone is read in the setting too. -/
theorem moves (hsuits : setting.Suits text) (h : setting.Embeds depth inner outer)
    (hshaped : Lexer.IsShaped text inner) (hrest : inner.cursor.rest ≠ []) {next : Step}
    {later : Nat} (hstep : inner.step = .ok next)
    (hshort : setting.strict = false → next.token.StopsShort text)
    (hcount : setting.ground.count depth next.token = some later) :
    ∃ moved, outer.step = .ok moved ∧
      moved.token.seen setting.strict = (setting.token next.token).seen setting.strict ∧
      setting.Embeds later next.lexer moved.lexer := by
  have hinitial := (hshaped.step hstep).shaped.nested.ne_initial
  have hopened := hshaped.shaped.nested.openedBy
  obtain ⟨upper, habove, hcarries⟩ := h.above_eq
  obtain ⟨⟨found, ⟨kept, base⟩, gaveWay⟩, stack, hchosen, hcarried⟩ := Lexer.exists_chosen hrest
  obtain rfl := Except.ok.inj (hcarried.symm.trans hstep)
  have hle : found.length ≤ inner.cursor.rest.length := hchosen.length_le
  obtain ⟨hchoose, ⟨gone, hsplit⟩, hreading, hfits, happly⟩ := hchosen
  have hbefore : inner.stack.above ≠ [] → inner.cursor.before ≠ [] := fun hne =>
    h.start_eq.resolve_right fun hstart => hne hstart.1
  have hends : setting.strict = false →
      found.length < inner.cursor.rest.length ∨ found.kind = .eol := by
    refine fun hstrict => (hshort hstrict).imp_left fun hstop => ?_
    have hlength := inner.cursor.offset_add_remaining
    rw [hshaped.text_eq, Cursor.remaining] at hlength
    simp only [Lexer.carryOut, Span.stop, Lexer.offset] at hstop
    omega
  obtain ⟨same, keptUpper, events, hresembles, hkept, hother⟩ :=
    exists_choose hsuits h hshaped.text_eq hrest outer.stack.base hcarries
      (fun frame hmem => (hopened frame hmem).isProper) hbefore hchoose hends
  rw [← habove] at hother
  have houter : outer.cursor.rest ≠ [] := by simp [h.rest_eq, hrest]
  have houterLength : found.length ≤ outer.cursor.rest.length := by
    rw [h.rest_eq, List.length_append]
    omega
  have hkeptInitial : ∀ frame ∈ kept, frame.mode ≠ .initial := by
    have hall := hshaped.shaped.nested.ne_initial
    rw [hsplit] at hall
    exact (List.forall_mem_append.mp hall).2
  -- The frames of the part that are left carry the match, or none is left and it is a brace.
  rcases Ground.count_cases hreading hkeptInitial (Lexer.classify_of_choose hchoose)
      hresembles.kind_eq happly hcount with
    ⟨hadapt, rfl⟩ | ⟨rfl, hbrace, openedAt, lower, hground, hadapt⟩
  · simp only [hadapt] at hother
    obtain ⟨next, hnext, hnextCarries⟩ := setting.exists_apply outer.stack.base
      (setting.ground.frames later) hkept hresembles happly
    rw [← h.offset_eq] at hnext
    rw [← hresembles.length_eq] at houterLength
    exact ⟨_, Lexer.step_eq_carryOut houter hother houterLength hnext,
      h.carryOut _ _ hresembles.kind_eq hresembles.length_eq hresembles.indent_eq hfits hinitial
        hnextCarries⟩
  · -- A brace of plain code leaves no frame of the part, and the frame of the ground counts it.
    obtain rfl := List.forall₂_nil_left_iff.mp hkept
    rw [hbrace] at happly
    obtain rfl := Except.ok.inj happly
    have hlength : found.length = 1 := congrArg Match.length hbrace
    have hindent : found.indent = 0 := congrArg Match.indent hbrace
    have hnext : Stack.apply ⟨[] ++ setting.ground.frames depth, outer.stack.base⟩
        (.replace (.interpolation later)) outer.offset =
          .ok ⟨[] ++ setting.ground.frames later, outer.stack.base⟩ := by
      rw [hground]
      rfl
    simp only [hadapt] at hother
    rw [hlength] at houterLength
    exact ⟨_, Lexer.step_eq_carryOut houter hother houterLength hnext,
      h.carryOut _ _ rfl hlength.symm (fun _ => hindent.symm) hfits hinitial .nil⟩

/-- **What is read alone is read in the setting.**  The tokens are the same, moved, except for the
indentation of heredocs if something follows. -/
theorem reads (hsuits : setting.Suits text) (h : setting.Embeds depth inner outer)
    (hshaped : Lexer.IsShaped text inner) {tokens : List Token} {last : Lexer} {later : Nat}
    (hreads : Lexer.Reads inner tokens last)
    (hshort : setting.strict = false → ∀ token ∈ tokens, token.StopsShort text)
    (hcount : setting.ground.countAll depth tokens = some later) :
    ∃ moved behind, Lexer.Reads outer moved behind ∧
      moved.map (Token.seen setting.strict) =
        tokens.map (fun token => (setting.token token).seen setting.strict) ∧
      setting.Embeds later last behind := by
  -- By induction on the reading; the count behind it is the count behind all but its last token.
  induction hreads generalizing later with
  | refl =>
      obtain rfl := Option.some.inj hcount
      exact ⟨[], outer, .refl, rfl, h⟩
  | @snoc tokens last next before hrest hstep ih =>
      rw [Ground.countAll, List.foldlM_append] at hcount
      obtain ⟨middle, hmiddle, hlast⟩ := Option.bind_eq_some_iff.mp hcount
      obtain ⟨moved, behind, hmoved, htokens, hembeds⟩ := ih
        (fun hstrict token hmem => hshort hstrict token (List.mem_append_left _ hmem)) hmiddle
      have hcountLast : setting.ground.count middle next.token = some later := by
        simpa using hlast
      have hshortLast : setting.strict = false → next.token.StopsShort text := fun hstrict =>
        hshort hstrict _ (List.mem_append_right _ (List.mem_singleton_self _))
      obtain ⟨again, hagain, htoken, hnext⟩ := hembeds.moves hsuits (hshaped.reads before) hrest
        hstep hshortLast hcountLast
      have houter : behind.cursor.rest ≠ [] := by simp [hembeds.rest_eq, hrest]
      refine ⟨moved ++ [again.token], again.lexer, .snoc hmoved houter hagain, ?_, hnext⟩
      rw [List.map_append, List.map_append, htokens, List.map_singleton, List.map_singleton, htoken]

end Setting.Embeds

/-! ## Reports -/

/-- What is reported of a token does not depend on its indentation. -/
theorem Token.report?_seen (text : List Char) (strict : Bool) (token : Token) :
    (token.seen strict).report? text = token.report? text := by
  cases strict <;> rfl

/-- A moved token is reported where it has been moved to. -/
theorem Token.report?_setting (setting : Setting) {text : List Char} {token : Token}
    (h : token.span.start < text.length) :
    (setting.token token).report? (setting.lead ++ text ++ setting.tail) =
      (token.report? text).map (Diagnostic.moved setting.lead.length) := by
  have hchar : (setting.lead ++ text ++ setting.tail)[token.span.start + setting.lead.length]? =
      text[token.span.start]? := by
    rw [List.getElem?_append_left (by rw [List.length_append]; omega),
      List.getElem?_append_right (by omega), Nat.add_sub_cancel]
  simp only [report?, Setting.token, inside, moved, hchar]
  split
  · rw [Option.map_map]
    rfl
  · rfl

/-- The reports of a part are those of the part alone, moved. -/
theorem Setting.reports_eq (setting : Setting) {text : List Char} {tokens moved : List Token}
    (options : Options) (hstart : ∀ token ∈ tokens, token.span.start < text.length)
    (h : moved.map (Token.seen setting.strict) =
      tokens.map fun token => (setting.token token).seen setting.strict) :
    reports (setting.lead ++ text ++ setting.tail) options moved =
      (reports text options tokens).map (Diagnostic.moved setting.lead.length) := by
  have hseen : ∀ some : List Token, some.filterMap
      (Token.report? (setting.lead ++ text ++ setting.tail)) =
      (some.map (Token.seen setting.strict)).filterMap
        (Token.report? (setting.lead ++ text ++ setting.tail)) := by
    intro some
    rw [List.filterMap_map]
    exact List.filterMap_congr fun token _ => (Token.report?_seen _ _ token).symm
  unfold reports
  split
  · rw [hseen, h, List.filterMap_map, List.map_filterMap]
    refine List.filterMap_congr fun token hmem => ?_
    rw [Function.comp_apply, Token.report?_seen, Token.report?_setting setting (hstart token hmem)]
  · rfl

/-- Every token of a text starts within it. -/
theorem Lexer.Reads.start_lt {text : List Char} {options : Options} {tokens : List Token}
    {last : Lexer} (h : Reads (ofText text options) tokens last) :
    ∀ token ∈ tokens, token.span.start < text.length := by
  intro token hmem
  have hlt := (h.tiles.start_bounds token hmem).2
  have htotal := last.cursor.offset_add_remaining
  rw [h.text, ofText, Cursor.text_ofText] at htotal
  rw [offset] at hlt
  omega

/-! ## Parts that end a line -/

/-- The last token is a line break of plain code. -/
def EndsInBreak (tokens : List Token) : Prop :=
  ∃ token, tokens.getLast? = some token ∧ token.kind = .eol ∧ token.state = .initial

/-- A line break with which the text ends is all that was left of it. -/
theorem Lexer.endsLine_of_step {lexer : Lexer} {next : Step} (hrest : lexer.cursor.rest ≠ [])
    (hstep : lexer.step = .ok next) (hkind : next.token.kind = .eol)
    (hend : next.lexer.cursor.rest = []) : EndsLine lexer.cursor.text [] := by
  obtain ⟨choice, stack, hchosen, hcarried⟩ := exists_chosen hrest
  obtain rfl := Except.ok.inj (hcarried.symm.trans hstep)
  have hlength : choice.found.length = lineBreakLength lexer.cursor.rest :=
    length_of_eol hrest (classify_of_choose hchosen.choose_eq) hkind
  have hle := hchosen.length_le
  have hall : lexer.cursor.rest.length ≤ choice.found.length := List.drop_eq_nil_iff.mp hend
  exact (EndsLine.of_lineBreakLength hrest (by omega)).append_left _

namespace Lexer.Reads

variable {text : List Char} {options : Options} {tokens : List Token} {last : Lexer}
  (hreads : Reads (ofText text options) tokens last) (hlast : last.cursor.rest = [])
  (hends : EndsInBreak tokens)

include hreads hends

/-- Behind a line break of plain code nothing is open. -/
theorem above_of_endsInBreak : last.stack.above = [] := by
  obtain ⟨token, hget, -, hstate⟩ := hends
  obtain ⟨front, rfl⟩ := List.getLast?_eq_some_iff.mp hget
  obtain ⟨middle, next, hfront, hrest, hstep, rfl, rfl⟩ := hreads.exists_of_snoc
  have hshaped := ((IsShaped.ofText text options).reads hfront).step hstep
  have htop : next.lexer.stack.top.mode.id = .initial := by
    cases moves_of_step hrest hstep
    exact hstate
  cases habove : next.lexer.stack.above with
  | nil => rfl
  | cons frame below =>
      rw [Stack.top, habove] at htop
      have hmode := hshaped.shaped.nested.ne_initial frame (by simp [habove])
      exact (Mode.id_ne_initial hmode htop).elim

include hlast

/-- The text ends with that line break. -/
theorem endsLine_of_endsInBreak : EndsLine text [] := by
  obtain ⟨token, hget, hkind, -⟩ := hends
  obtain ⟨front, rfl⟩ := List.getLast?_eq_some_iff.mp hget
  obtain ⟨middle, next, hfront, hrest, hstep, rfl, rfl⟩ := hreads.exists_of_snoc
  have hends := endsLine_of_step hrest hstep hkind hlast
  rwa [hfront.text, ofText, Cursor.text_ofText] at hends

/-- All tokens in front of it end before the text does. -/
theorem stopsShort_of_endsInBreak : ∀ token ∈ tokens, token.StopsShort text := by
  obtain ⟨final, hget, hkind, -⟩ := hends
  obtain ⟨front, rfl⟩ := List.getLast?_eq_some_iff.mp hget
  obtain ⟨middle, next, hfront, hrest, hstep, rfl, rfl⟩ := hreads.exists_of_snoc
  have hlength : middle.offset < text.length := by
    have htotal := middle.cursor.offset_add_remaining
    have hpos := List.length_pos_iff.mpr hrest
    rw [hfront.text, ofText, Cursor.text_ofText, Cursor.remaining] at htotal
    rw [offset]
    omega
  refine List.forall_mem_append.mpr ⟨fun token hmem => .inl ?_, ?_⟩
  · exact Nat.lt_of_le_of_lt (hfront.tiles.stop_le token hmem) hlength
  · exact List.forall_mem_singleton.mpr (.inr hkind)

end Lexer.Reads

/-- A lexer in front of the part, with the frames of the ground, reads what is read alone. -/
theorem Setting.embeds_ofText {setting : Setting} {text : List Char} {depth : Nat} (outer : Lexer)
    (hcursor : outer.cursor = ⟨setting.lead.reverse, text ++ setting.tail⟩)
    (habove : outer.stack.above = setting.ground.frames depth)
    (hhead : setting.lead = [] → (text ++ setting.tail).head? = text.head?)
    (hmark : setting.lead = [] ∨ text.head? ≠ some byteOrderMark ∨
      outer.options.acceptByteOrderMark = false) :
    setting.Embeds depth (Lexer.ofText text outer.options) outer where
  before_eq := by rw [hcursor]; rfl
  rest_eq := by rw [hcursor]; rfl
  above_eq := ⟨[], habove, .nil⟩
  start_eq := by
    refine .inr ⟨rfl, ?_⟩
    by_cases hlead : setting.lead = []
    · simp [Scan.hasByteOrderMark, Scan.rest, Cursor.offset, hcursor, hlead, hhead hlead,
        Lexer.ofText, Cursor.ofText]
    · have hinner := hmark.resolve_left hlead
      rw [Scan.hasByteOrderMark_of_before _ _ (by simpa [hcursor] using hlead)]
      rcases hinner with hinner | hinner <;>
        simp [Scan.hasByteOrderMark, Scan.rest, Lexer.ofText, Cursor.ofText, hinner]

/-- **A part that ends a line is read as it is alone**, whatever follows it. -/
theorem Setting.Embeds.exists_reads {setting : Setting} {text : List Char} {options : Options}
    {tokens : List Token} {last outer : Lexer} {later : Nat} (hstrict : setting.strict = false)
    (h : setting.Embeds 0 (Lexer.ofText text options) outer)
    (hreads : Lexer.Reads (Lexer.ofText text options) tokens last) (hlast : last.cursor.rest = [])
    (hends : text = [] ∨ EndsLine text setting.tail ∧ EndsInBreak tokens)
    (hcount : setting.ground.countAll 0 tokens = some later) :
    ∃ moved behind, Lexer.Reads outer moved behind ∧
      moved.map (Token.seen setting.strict) =
        tokens.map (fun token => (setting.token token).seen setting.strict) ∧
      behind.cursor = ⟨text.reverse ++ setting.lead.reverse, setting.tail⟩ ∧
      behind.stack.above = setting.ground.frames later := by
  have habove : last.stack.above = [] := by
    rcases hends with rfl | ⟨-, hbreak⟩
    · obtain ⟨-, rfl⟩ := hreads.eq_of_rest_nil rfl
      rfl
    · exact hreads.above_of_endsInBreak hbreak
  have htext : last.cursor.before.reverse = text := by
    have hwhole := hreads.text
    rwa [Cursor.text, hlast, List.append_nil, Lexer.ofText, Cursor.text_ofText] at hwhole
  obtain ⟨moved, behind, hmoved, htokens, hembeds⟩ : ∃ moved behind,
      Lexer.Reads outer moved behind ∧
      moved.map (Token.seen setting.strict) =
        tokens.map (fun token => (setting.token token).seen setting.strict) ∧
      setting.Embeds later last behind := by
    rcases hends with rfl | ⟨hline, hbreak⟩
    · obtain ⟨rfl, rfl⟩ := hreads.eq_of_rest_nil rfl
      obtain rfl := Option.some.inj hcount
      exact ⟨[], outer, .refl, rfl, h⟩
    · exact h.reads (.inr ⟨hstrict, hline⟩) (.ofText text options) hreads
        (fun _ => hreads.stopsShort_of_endsInBreak hlast hbreak) hcount
  refine ⟨moved, behind, hmoved, htokens, ?_, ?_⟩
  · rw [← htext, List.reverse_reverse, ← hembeds.before_eq, ← List.nil_append setting.tail,
      ← hlast, ← hembeds.rest_eq]
  · obtain ⟨upper, hupper, hcarries⟩ := hembeds.above_eq
    rw [habove] at hcarries
    rw [hupper, List.forall₂_nil_left_iff.mp hcarries, List.nil_append]

end ElixirLexer
