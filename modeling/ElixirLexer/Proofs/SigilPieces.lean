import ElixirLexer.Proofs.Account
import ElixirLexer.Proofs.Delimiters
import ElixirLexer.Proofs.DepthCounters

/-!
# The pieces of sigils

A sigil is read in pieces, and three rules look ahead for what another rule is to read: the tilde is
taken only where a letter and a delimiter follow, and what closes a sigil leaves a frame for
modifiers only where a letter follows.  These promises are kept (`tokenize_keepsSigils`).  The
letter and the delimiter follow the tilde at once, so the two frames of the head of a sigil never
give way and are never left at the end of a text.  Behind what closes a sigil there is one modifier
for each letter, then the frame on which the sigil lay reads, and there are no other modifiers.

Behind a tilde and behind a closer the argument follows the lexer step by step, over the letters by
induction on them.  From a modifier it goes back: the frame of modifiers is left on top only by a
closer or by another modifier (`ReadsUnder.of_modifiers_on_top`), so in every reading it is owed to
a closer (`Reads.exists_closer`).
-/

namespace ElixirLexer

/-- Whether a token of this kind, read in this mode, closes a sigil. -/
def Mode.ClosesSigil (mode : Mode) (kind : Kind) : Prop :=
  kind = .sigilTerminator ∨
    kind = .heredocTerminator ∧ ∃ heredoc, mode = .heredocBody heredoc ∧ heredoc.literal = .sigil

/-- How many letters follow one another at an offset of a text. -/
def lettersAt (text : List Char) (offset : Nat) : Nat :=
  ((text.drop offset).takeWhile Char.isAlpha).length

/-! ## Readings of the pieces -/

namespace Reading

variable {cursor : Cursor} {mode : Mode} {found : Match}

/-- The kinds of tildes and of modifiers say how they are read. -/
theorem sigilEdge_cases (h : Reading cursor mode found)
    (hkind : found.kind = .tilde ∨ found.kind = .sigilModifier) :
    (∃ letter delimiter tail, cursor.rest = '~' :: letter :: delimiter :: tail ∧
      found = ⟨.tilde, 1, 3, 0, .push .sigilName⟩) ∨
    mode = .sigilModifiers ∧ found = Match.plain .sigilModifier 1 := by
  cases h with
  | sigilOpening hmode hrest hletter hdelimiter => exact .inl ⟨_, _, _, hrest, rfl⟩
  | sigilModifier hrest hletter => exact .inr ⟨rfl, rfl⟩
  | @plain _ kind length hmode hplain hpos hlength hbrace =>
      rcases hkind with hkind | hkind <;> obtain rfl := show kind = _ from hkind <;>
        simp [Kind.isPlain] at hplain
  | @quoteOpening _ quote literal tail hmode hquote hrest hsingle =>
      cases literal <;> simp [Match.moving, Literal.promoterKind] at hkind
  | @groupTerminator group tail hdepth hrest =>
      cases hliteral : group.literal <;>
        simp [Match.moving, Literal.terminatorKind, hliteral] at hkind
  | @groupBody group hpos =>
      cases hliteral : group.literal <;> simp [Match.moving, Literal.bodyKind, hliteral] at hkind
  | _ => simp [Match.plain, Match.moving] at hkind

theorem of_sigilName (h : Reading cursor .sigilName found) :
    ∃ interpolating, found =
      Match.moving .sigilName 1 (.replace (.sigilDelimiter interpolating)) := by
  cases h with
  | sigilName hrest hletter => exact ⟨_, rfl⟩
  | plain hmode | badCharacter hmode | heredocOpening hmode | quoteOpening hmode
  | sigilOpening hmode => simp [Mode.isCode] at hmode

theorem kind_of_sigilDelimiter {interpolating : Bool}
    (h : Reading cursor (.sigilDelimiter interpolating) found) :
    found.kind = .sigilPromoter ∨ found.kind = .heredocPromoter := by
  cases h with
  | sigilHeredoc hquote hrest => exact .inr rfl
  | sigilDelimiter hrest hopener hsingle => exact .inl rfl
  | plain hmode | badCharacter hmode | heredocOpening hmode | quoteOpening hmode
  | sigilOpening hmode => simp [Mode.isCode] at hmode

/-- Where modifiers are expected a letter is read, and more are expected. -/
theorem of_sigilModifiers (h : Reading cursor .sigilModifiers found) :
    found = Match.plain .sigilModifier 1 ∧ cursor.rest.head?.any Char.isAlpha := by
  cases h with
  | sigilModifier hrest hletter => exact ⟨rfl, by simp [hrest, hletter]⟩
  | plain hmode | badCharacter hmode | heredocOpening hmode | quoteOpening hmode
  | sigilOpening hmode => simp [Mode.isCode] at hmode

/-- What closes a sigil looks at the character behind it. -/
theorem transition_of_closesSigil (h : Reading cursor mode found)
    (hcloses : mode.ClosesSigil found.kind) :
    mode.isCode = false ∧
      found.transition = closing .sigil (cursor.rest.drop found.length) := by
  cases h with
  | @groupTerminator group tail hdepth hrest =>
      have hliteral : group.literal = .sigil := by
        cases hliteral : group.literal <;>
          simp [Mode.ClosesSigil, Match.moving, Literal.terminatorKind, hliteral] at hcloses ⊢
      refine ⟨rfl, ?_⟩
      simp [Match.moving, hliteral, hrest]
  | @heredocTerminator heredoc width hstart hwidth =>
      obtain hkind | ⟨-, other, hmode, hliteral⟩ := hcloses
      · simp at hkind
      · obtain rfl := Mode.heredocBody.inj hmode
        exact ⟨rfl, by rw [hliteral]⟩
  | @plain _ kind length hmode hplain hpos hlength hbrace =>
      rcases hcloses with hkind | ⟨hkind, -⟩ <;> obtain rfl := show kind = _ from hkind <;>
        simp [Kind.isPlain] at hplain
  | @quoteOpening _ quote literal tail hmode hquote hrest hsingle =>
      cases literal <;> simp [Mode.ClosesSigil, Match.moving, Literal.promoterKind] at hcloses
  | @groupBody group hpos =>
      cases hliteral : group.literal <;>
        simp [Mode.ClosesSigil, Match.moving, Literal.bodyKind, hliteral] at hcloses
  | _ => simp [Mode.ClosesSigil, Match.plain, Match.moving] at hcloses

/-- Modifiers are expected only behind what closes a sigil. -/
theorem closesSigil_of_replace (h : Reading cursor mode found)
    (htransition : found.transition = .replace .sigilModifiers) :
    mode.ClosesSigil found.kind := by
  cases h with
  | @groupTerminator group tail hdepth hrest =>
      obtain ⟨hliteral, -, -⟩ := eq_of_closing_eq_replace htransition
      exact .inl (by simp [Match.moving, hliteral, Literal.terminatorKind])
  | @heredocTerminator heredoc width hstart hwidth =>
      obtain ⟨hliteral, -, -⟩ := eq_of_closing_eq_replace htransition
      exact .inr ⟨rfl, heredoc, rfl, hliteral⟩
  | groupBody hpos => simpa using Group.eq_of_deepened_eq_replace htransition
  | _ => simp [Match.plain, Match.moving] at htransition

theorem transition_ne_push_sigilModifiers (h : Reading cursor mode found) :
    found.transition ≠ .push .sigilModifiers := by
  cases h <;> simp [Match.plain, Match.moving]

end Reading

theorem classify_sigilModifier {before tail : List Char} {letter : Char} {options : Options}
    (hletter : letter.isAlpha) :
    classify ⟨before, letter :: tail⟩ .sigilModifiers options =
      .emit (Match.plain .sigilModifier 1) := by
  simp [classify, Mode.id, Rule.table, longest_cons, Rule.answer, Scan.sigilModifier, Scan.rest,
    hletter]

/-- Modifiers follow where a letter follows. -/
theorem length_takeWhile_isAlpha_pos_iff {text : List Char} :
    0 < (text.takeWhile Char.isAlpha).length ↔ text.head?.any Char.isAlpha := by
  cases text with
  | nil => simp
  | cons c others => cases hletter : c.isAlpha <;> simp [hletter]

/-- The mode behind a sigil that lies on code. -/
theorem Stack.id_top_behind {stack : Stack} {openedAt : Nat} {tail : List Char}
    (hcode : stack.top.mode.isCode) :
    (stack.behind .sigil openedAt tail).top.mode.id = .sigilModifiers ↔
      0 < (tail.takeWhile Char.isAlpha).length := by
  rw [length_takeWhile_isAlpha_pos_iff]
  unfold Stack.behind
  split
  · next h => simp [h.2, Mode.id]
  · next hnone =>
      have hmode : stack.top.mode.id ≠ .sigilModifiers := by
        cases hcase : stack.top.mode <;> simp_all [Mode.isCode, Mode.id]
      simpa [hmode] using hnone

/-! ## The frames that read -/

/-- A literal lies on code. -/
theorem Shaped.isCode_beneath {text : List Char} {offset : Nat} {frame : Frame}
    {below : List Frame} (h : Shaped text offset (frame :: below))
    (hmode : frame.mode.isCode = false) (base : Nat) :
    (Stack.top ⟨below, base⟩).mode.isCode := by
  cases below with
  | nil => rfl
  | cons lower lowest =>
      obtain ⟨-, ⟨-, hlower⟩ | ⟨hupper, -⟩⟩ := h.nested.2.1
      · show lower.mode.isCode
        cases hcase : lower.mode <;> simp_all [Mode.isInterpolation, Mode.isCode]
      · cases hcase : frame.mode <;> simp_all [Mode.isInterpolation, Mode.isCode]

namespace Lexer

variable {text : List Char} {lexer : Lexer} {next : Step} {gone kept : List Frame} {found : Match}

namespace ReadsUnder

/-- Only a frame of modifiers gives way, where no letter is ahead, and code reads in its place. -/
theorem gone_cases (h : ReadsUnder lexer next gone kept found) (hshaped : IsShaped text lexer) :
    gone = [] ∨ ∃ frame, gone = [frame] ∧ frame.mode = .sigilModifiers ∧
      lexer.reader.mode.isCode ∧ lexer.cursor.rest.head?.any Char.isAlpha = false := by
  have hall := hshaped.shaped
  rw [h.above_eq, ← hshaped.text_eq] at hall
  rcases hall.gone_eq h.givesWay with hnone | ⟨frame, rfl, hmode⟩
  · exact .inl hnone
  · refine .inr ⟨frame, rfl, hmode, ?_, ?_⟩
    · rw [h.reader_eq]
      exact hall.isCode_beneath (by rw [hmode]; rfl) _
    · have hgives := h.givesWay frame List.mem_cons_self
      rw [hmode] at hgives
      cases hgives with
      | sigilModifiers hnone => exact hnone

/-- A frame that is not of code reads only when it is on top. -/
theorem exists_below (h : ReadsUnder lexer next gone kept found) (hshaped : IsShaped text lexer)
    (hmode : lexer.reader.mode.isCode = false) :
    gone = [] ∧ ∃ below, kept = lexer.reader :: below := by
  have hreader := h.reader_eq
  rcases h.gone_cases hshaped with hnone | ⟨-, -, -, hcode, -⟩
  · refine ⟨hnone, ?_⟩
    cases kept with
    | nil => simp [hreader, Stack.top, Mode.isCode] at hmode
    | cons frame below => exact ⟨below, by rw [hreader]; rfl⟩
  · simp [hmode] at hcode

/-- **Step.**  A frame of modifiers is left on top only by what closes a sigil and by a modifier. -/
theorem of_modifiers_on_top (h : ReadsUnder lexer next gone kept found)
    (hshaped : IsShaped text lexer) (htop : next.lexer.stack.top.mode = .sigilModifiers) :
    lexer.reader.mode.ClosesSigil next.token.kind ∨
      next.token.kind = .sigilModifier ∧ lexer.stack.top.mode = .sigilModifiers := by
  have happly := h.apply_eq
  rw [h.kind_eq]
  cases htransition : found.transition with
  | stay =>
      rw [htransition] at happly
      rw [← Except.ok.inj happly, ← h.reader_eq] at htop
      have hreading := h.reading
      rw [htop] at hreading
      obtain ⟨hnone, -⟩ := h.exists_below hshaped (by rw [htop]; rfl)
      have habove : lexer.stack.above = kept := by rw [h.above_eq, hnone, List.nil_append]
      refine .inr ⟨by rw [hreading.of_sigilModifiers.1]; rfl, ?_⟩
      rw [← htop, h.reader_eq, ← habove]
  | push inner =>
      rw [htransition] at happly
      rw [← Except.ok.inj happly, Stack.top_push] at htop
      obtain rfl : inner = .sigilModifiers := htop
      exact absurd htransition h.reading.transition_ne_push_sigilModifiers
  | pop =>
      -- What is uncovered has had something on it, and nothing is put on modifiers.
      rw [htransition] at happly
      obtain ⟨frame, hkept, -⟩ := Stack.exists_of_apply_pop happly
      have hall := hshaped.shaped
      rw [h.above_eq] at hall
      replace hkept : kept = frame :: next.lexer.stack.above := hkept
      have hbeneath := (hkept ▸ hall.of_append).isTransient_beneath
      unfold Stack.top at htop
      cases habove : next.lexer.stack.above with
      | nil => simp [habove] at htop
      | cons lower below =>
          rw [habove] at htop hbeneath
          have hlower := hbeneath lower List.mem_cons_self
          simp only [List.headD_cons] at htop
          simp [htop, Mode.isTransient] at hlower
  | replace mode =>
      rw [htransition] at happly
      obtain ⟨frame, below, -, hstack⟩ := Stack.exists_of_apply_replace happly
      rw [hstack] at htop
      obtain rfl : mode = .sigilModifiers := htop
      exact .inl (h.reading.closesSigil_of_replace htransition)

end ReadsUnder

/-! ## Behind a tilde -/

section

variable {last : Lexer} {tokens later : List Token}

/-- What is read next when no modifiers are on top. -/
theorem Reads.exists_of_top (h : Reads lexer tokens last) (hlast : last.cursor.rest = [])
    (hrest : lexer.cursor.rest ≠ []) (hshaped : IsShaped text lexer)
    (htop : lexer.stack.top.mode ≠ .sigilModifiers) :
    ∃ next later found, tokens = next.token :: later ∧ lexer.step = .ok next ∧
      Reads next.lexer later last ∧ ReadsUnder lexer next [] lexer.stack.above found := by
  cases tokens with
  | nil =>
      rw [h.eq_of_nil] at hlast
      exact absurd hlast hrest
  | cons token later =>
      obtain ⟨next, -, hstep, rfl, hlater⟩ := h.exists_of_cons
      obtain ⟨gone, kept, found, hreads⟩ := exists_readsUnder hrest hstep
      have habove := hreads.above_eq
      rcases hreads.gone_cases hshaped with rfl | ⟨frame, rfl, hmode, -⟩
      · obtain rfl : lexer.stack.above = kept := habove
        exact ⟨next, later, found, rfl, hstep, hlater, hreads⟩
      · exact absurd (by simp [Stack.top, habove, hmode]) htop

/-- The letter and the delimiter that a tilde insists on are read behind it. -/
theorem Reads.after_tilde {tilde : Token} (h : Reads lexer (tilde :: later) last)
    (hlast : last.cursor.rest = []) (hshaped : IsShaped text lexer) (hkind : tilde.kind = .tilde) :
    ∃ name promoter others, later = name :: promoter :: others ∧ name.kind = .sigilName ∧
      name.span.length = 1 ∧
      (promoter.kind = .sigilPromoter ∨ promoter.kind = .heredocPromoter) := by
  obtain ⟨first, hrest, hfirst, rfl, hlater⟩ := h.exists_of_cons
  obtain ⟨gone, kept, found, hreads⟩ := exists_readsUnder hrest hfirst
  rw [hreads.kind_eq] at hkind
  rcases hreads.reading.sigilEdge_cases (.inl hkind) with ⟨letter, delimiter, tail, hsigil, rfl⟩ |
      ⟨-, rfl⟩
  · -- Of the three characters that the tilde looked at one is taken, and two are still ahead.
    have hstack : Stack.push ⟨kept, _⟩ ⟨.sigilName, lexer.offset⟩ = first.lexer.stack :=
      Except.ok.inj hreads.apply_eq
    have hahead : first.lexer.cursor.rest = letter :: delimiter :: tail := by
      rw [hreads.cursor_eq]
      simp [Cursor.skip, hsigil]
    obtain ⟨second, more, name, rfl, hsecond, hmore, hname⟩ :=
      hlater.exists_of_top hlast (by simp [hahead]) (hshaped.step hfirst) (by simp [← hstack])
    have hnamed := hname.reading
    rw [hname.reader_eq, ← hstack] at hnamed
    obtain ⟨interpolating, rfl⟩ := hnamed.of_sigilName
    have hreplace := hname.apply_eq
    rw [← hstack] at hreplace
    replace hreplace : Stack.push ⟨kept, _⟩ ⟨.sigilDelimiter interpolating, lexer.offset⟩ =
      second.lexer.stack := Except.ok.inj hreplace
    -- The frame has become that of the delimiter, which alone is still ahead.
    have hbehind : second.lexer.cursor.rest = delimiter :: tail := by
      rw [hname.cursor_eq]
      simp [Cursor.skip, hahead, Match.moving]
    obtain ⟨third, others, promoter, rfl, -, -, hpromoter⟩ :=
      hmore.exists_of_top hlast (by simp [hbehind]) ((hshaped.step hfirst).step hsecond)
        (by simp [← hreplace])
    have hpromoted := hpromoter.reading
    rw [hpromoter.reader_eq, ← hreplace] at hpromoted
    refine ⟨_, _, others, rfl, ?_, ?_, ?_⟩
    · rw [hname.kind_eq]
      rfl
    · rw [hname.token_eq]
      rfl
    · rw [hpromoter.kind_eq]
      exact hpromoted.kind_of_sigilDelimiter
  · simp [Match.plain] at hkind

/-! ## Behind what closes a sigil -/

variable {stack : Stack} {openedAt : Nat} {before after : Lexer}

/-- Each letter is one modifier, and their frame stays. -/
theorem Reads.letters {letters tail : List Char} (hletters : ∀ c ∈ letters, c.isAlpha)
    (hrest : lexer.cursor.rest = letters ++ tail)
    (hstack : lexer.stack = stack.push ⟨.sigilModifiers, openedAt⟩) :
    ∃ modifiers after, Reads lexer modifiers after ∧ modifiers.length = letters.length ∧
      (∀ token ∈ modifiers, token.kind = .sigilModifier ∧ token.span.length = 1) ∧
      after.stack = stack.push ⟨.sigilModifiers, openedAt⟩ ∧ after.cursor.rest = tail := by
  induction letters generalizing lexer with
  | nil => exact ⟨[], lexer, .refl, rfl, by simp, hstack, hrest⟩
  | cons letter others ih =>
      obtain ⟨⟨passed, ahead⟩, current, options, diagnostics, finished⟩ := lexer
      obtain rfl : ahead = letter :: (others ++ tail) := hrest
      obtain rfl : current = stack.push ⟨.sigilModifiers, openedAt⟩ := hstack
      obtain ⟨hletter, hothers⟩ := List.forall_mem_cons.mp hletters
      have hfirst := Reads.of_classify_of_ne
        ⟨⟨passed, letter :: (others ++ tail)⟩, stack.push ⟨.sigilModifiers, openedAt⟩, options,
          diagnostics, finished⟩
        (List.cons_ne_nil _ _) (by simp [Match.plain]) (classify_sigilModifier hletter) rfl
      have hbehind : Lexer.stack ⟨⟨letter :: passed, others ++ tail⟩,
        stack.push ⟨.sigilModifiers, openedAt⟩, options, diagnostics, finished⟩ = _ := rfl
      obtain ⟨modifiers, after, hmore, hlength, hall, hafter, htail⟩ := ih hothers rfl hbehind
      refine ⟨_, after, hfirst.trans hmore, ?_, ?_, hafter, htail⟩
      · simp [hlength]
      · exact List.forall_mem_cons.mpr ⟨⟨rfl, rfl⟩, hall⟩

/-- Behind what closes a sigil as many modifiers are read as letters follow. -/
theorem Reads.exists_modifiers
    (hstack : lexer.stack = stack.behind .sigil openedAt lexer.cursor.rest) :
    ∃ modifiers after, Reads lexer modifiers after ∧
      modifiers.length = (lexer.cursor.rest.takeWhile Char.isAlpha).length ∧
      (∀ token ∈ modifiers, token.kind = .sigilModifier ∧ token.span.length = 1) ∧
      (after.stack = stack ∨ after.stack = stack.push ⟨.sigilModifiers, openedAt⟩) ∧
      after.cursor.rest.head?.any Char.isAlpha = false := by
  unfold Stack.behind at hstack
  split at hstack
  · have hletters : ∀ c ∈ lexer.cursor.rest.takeWhile Char.isAlpha, c.isAlpha :=
      fun c hc => List.mem_takeWhile_imp hc
    obtain ⟨modifiers, after, hreads, hlength, hall, hafter, hrest⟩ :=
      Reads.letters hletters List.takeWhile_append_dropWhile.symm hstack
    refine ⟨modifiers, after, hreads, hlength, hall, .inr hafter, ?_⟩
    have hhead := List.head?_dropWhile_not Char.isAlpha lexer.cursor.rest
    rw [hrest]
    cases hfirst : (lexer.cursor.rest.dropWhile Char.isAlpha).head? with
    | none => rfl
    | some c => simpa [hfirst] using hhead
  · next hnone =>
      replace hnone : lexer.cursor.rest.head?.any Char.isAlpha = false := by simpa using hnone
      refine ⟨[], lexer, .refl, ?_, by simp, .inl hstack, hnone⟩
      have hnot := length_takeWhile_isAlpha_pos_iff.not.mpr (Bool.eq_false_iff.mp hnone)
      exact (Nat.eq_zero_of_not_pos hnot).symm

/-- Behind the modifiers the frame beneath the sigil reads. -/
theorem reader_behind_modifiers (hshaped : IsShaped text after) (hrest : after.cursor.rest ≠ [])
    (hstack : after.stack = stack ∨ after.stack = stack.push ⟨.sigilModifiers, openedAt⟩)
    (hcode : stack.top.mode.isCode)
    (hnone : after.cursor.rest.head?.any Char.isAlpha = false) : after.reader = stack.top := by
  obtain ⟨next, hstep⟩ := exists_step after
  obtain ⟨gone, kept, found, hreads⟩ := exists_readsUnder hrest hstep
  have habove := hreads.above_eq
  have hreader := hreads.reader_eq
  have hreading := hreads.reading
  rw [hreader] at hreading ⊢
  rcases hreads.gone_cases hshaped with rfl | ⟨frame, rfl, hmode, -⟩
  · obtain rfl : after.stack.above = kept := habove
    rcases hstack with hstack | hstack
    · rw [← hstack]
    · -- A frame of modifiers that stays would have to find a letter.
      rw [hstack] at hreading
      have hletter := hreading.of_sigilModifiers.2
      simp [hnone] at hletter
  · rcases hstack with hstack | hstack
    · -- What gives way is on top, and code does not.
      rw [← hstack, Stack.top, habove] at hcode
      simp [hmode, Mode.isCode] at hcode
    · rw [hstack] at habove ⊢
      obtain rfl : stack.above = kept := (List.cons.inj habove).2
      rfl

/-- At the end of the text the modifiers are gone too. -/
theorem above_finish_behind_modifiers (hfinished : after.finished = false)
    (hstack : after.stack = stack ∨ after.stack = stack.push ⟨.sigilModifiers, openedAt⟩)
    (hcode : stack.top.mode.isCode) : after.finish.lexer.stack.above = stack.above := by
  have hkeep : stack.above.dropWhile (fun frame => frame.mode == .sigilModifiers) =
      stack.above := by
    cases habove : stack.above with
    | nil => rfl
    | cons frame below =>
        rw [Stack.top, habove] at hcode
        replace hcode : frame.mode.isCode = true := hcode
        have hmode : frame.mode ≠ .sigilModifiers := by
          intro hmode
          simp [hmode, Mode.isCode] at hcode
        simp [hmode]
  rw [finish_stack hfinished]
  rcases hstack with hstack | hstack
  · rw [hstack]
    exact hkeep
  · rw [hstack]
    simpa [withoutModifiers, Stack.push] using hkeep

/-- What comes behind a token that closes a sigil.  `before` reads that token, `after` has read the
modifiers as well, and `below` are the frames beneath that of the sigil. -/
structure ClosedBy (before : Lexer) (closer : Token) (modifiers others : List Token)
    (below : List Frame) (after : Lexer) : Prop where
  above_eq : before.stack.above = before.reader :: below
  length_eq : modifiers.length = lettersAt before.cursor.text closer.span.stop
  pieces : ∀ token ∈ modifiers, token.kind = .sigilModifier ∧ token.span.length = 1
  state_iff : closer.state = .sigilModifiers ↔ 0 < modifiers.length
  no_more : ∀ token ∈ others.head?, token.kind ≠ .sigilModifier
  reader_eq : after.cursor.rest ≠ [] → after.reader = Stack.top ⟨below, before.stack.base⟩
  /-- At the end of the text nothing is read any more, and these frames are left. -/
  above_finish : after.cursor.rest = [] → after.finish.lexer.stack.above = below

theorem Reads.after_closer {closer : Token} (h : Reads before (closer :: later) last)
    (hlast : last.cursor.rest = []) (hshaped : IsShaped text before)
    (hfinished : before.finished = false)
    (hcloses : before.reader.mode.ClosesSigil closer.kind) :
    ∃ modifiers others below after, later = modifiers ++ others ∧
      Reads before (closer :: modifiers) after ∧
      ClosedBy before closer modifiers others below after := by
  obtain ⟨next, hrest, hstep, rfl, hlater⟩ := h.exists_of_cons
  obtain ⟨gone, kept, found, hreads⟩ := exists_readsUnder hrest hstep
  rw [hreads.kind_eq] at hcloses
  obtain ⟨hmode, htransition⟩ := hreads.reading.transition_of_closesSigil hcloses
  obtain ⟨rfl, below, rfl⟩ := hreads.exists_below hshaped hmode
  have habove : before.stack.above = before.reader :: below := hreads.above_eq
  have hcode : (Stack.top ⟨below, before.stack.base⟩).mode.isCode := by
    have hall := hshaped.shaped
    rw [habove] at hall
    exact hall.isCode_beneath hmode _
  have hbehind : next.lexer.stack = Stack.behind ⟨below, before.stack.base⟩ .sigil
      before.reader.openedAt next.lexer.cursor.rest := by
    have happly := hreads.apply_eq
    rw [htransition] at happly
    rw [hreads.cursor_eq]
    exact Except.ok.inj (happly.symm.trans (Stack.apply_closing ⟨below, _⟩ _ _ _ _))
  obtain ⟨modifiers, after, hmodifiers, hlength, hall, hafter, hnone⟩ :=
    Reads.exists_modifiers hbehind
  obtain ⟨others, final, rfl, hothers, -, -⟩ := hlater.exists_more hlast hmodifiers
  have hmoves := moves_of_step hrest hstep
  have hclosed : Reads before (next.token :: modifiers) after :=
    (Reads.single hrest hstep).trans hmodifiers
  have hnext := hshaped.reads hclosed
  refine ⟨modifiers, others, below, after, rfl, hclosed, {
    above_eq := habove
    length_eq := ?_
    pieces := hall
    state_iff := ?_
    no_more := ?_
    reader_eq := fun hmore => reader_behind_modifiers hnext hmore hafter hcode hnone
    above_finish := fun _ =>
      above_finish_behind_modifiers (hclosed.finished.trans hfinished) hafter hcode }⟩
  · rw [hlength, lettersAt, ← hmoves.offset, ← hmoves.text]
    exact congrArg (fun ahead => (ahead.takeWhile Char.isAlpha).length)
      next.lexer.cursor.rest_eq_drop
  · rw [show next.token.state = next.lexer.stack.top.mode.id by rw [hreads.token_eq], hbehind,
      hlength]
    exact Stack.id_top_behind hcode
  · intro token htoken hkind
    obtain ⟨more, rfl⟩ := List.head?_eq_some_iff.mp htoken
    obtain ⟨second, hmore, hsecond, rfl, -⟩ := hothers.exists_of_cons
    obtain ⟨_, _, other, hunder⟩ := exists_readsUnder hmore hsecond
    rw [hunder.kind_eq] at hkind
    have hread := hunder.reading
    rw [reader_behind_modifiers hnext hmore hafter hcode hnone] at hread
    rcases hread.sigilEdge_cases (.inr hkind) with ⟨-, -, -, -, rfl⟩ | ⟨hmodifiers, -⟩
    · simp at hkind
    · simp [hmodifiers, Mode.isCode] at hcode

/-! ## From a modifier back to the sigil -/

/-- **Run.**  A frame of modifiers on top is owed to a token that closes a sigil, and behind that
token only modifiers have been read. -/
theorem Reads.exists_closer {start : Lexer} (h : Reads start tokens last)
    (hshaped : IsShaped text start) (hstart : start.stack.top.mode ≠ .sigilModifiers)
    (htop : last.stack.top.mode = .sigilModifiers) :
    ∃ earlier closer others before, tokens = earlier ++ closer :: others ∧
      Reads start earlier before ∧ before.reader.mode.ClosesSigil closer.kind ∧
      ∀ other ∈ others, other.kind = .sigilModifier := by
  induction h with
  | refl => exact absurd htop hstart
  | @snoc tokens middle next hbefore hrest hstep ih =>
      obtain ⟨gone, kept, found, hreads⟩ := exists_readsUnder hrest hstep
      rcases hreads.of_modifiers_on_top (hshaped.reads hbefore) htop with
        hcloses | ⟨hkind, hunder⟩
      · exact ⟨tokens, next.token, [], middle, rfl, hbefore, hcloses, by simp⟩
      · obtain ⟨earlier, closer, others, before, rfl, hearlier, hcloses, hothers⟩ := ih hunder
        refine ⟨earlier, closer, others ++ [next.token], before, by simp, hearlier, hcloses, ?_⟩
        intro other hmem
        rcases List.mem_append.mp hmem with hmem | hmem
        · exact hothers other hmem
        · rw [List.mem_singleton.mp hmem, hkind]

/-- Every modifier is owed to a token that closes a sigil. -/
theorem Reads.before_modifier {start : Lexer} {modifier : Token}
    (h : Reads start (tokens ++ [modifier]) last) (hshaped : IsShaped text start)
    (hstart : start.stack.top.mode ≠ .sigilModifiers) (hkind : modifier.kind = .sigilModifier) :
    ∃ earlier closer others before, tokens = earlier ++ closer :: others ∧
      Reads start earlier before ∧ before.reader.mode.ClosesSigil closer.kind ∧
      ∀ other ∈ others, other.kind = .sigilModifier := by
  obtain ⟨middle, next, hbefore, hrest, hstep, rfl, -⟩ := h.exists_of_snoc
  obtain ⟨gone, kept, found, hreads⟩ := exists_readsUnder hrest hstep
  have hmiddle := hshaped.reads hbefore
  refine hbefore.exists_closer hshaped hstart ?_
  rw [hreads.kind_eq] at hkind
  rcases hreads.reading.sigilEdge_cases (.inr hkind) with ⟨-, -, -, -, rfl⟩ | ⟨hmode, -⟩
  · simp at hkind
  · obtain ⟨rfl, -⟩ := hreads.exists_below hmiddle (by rw [hmode]; rfl)
    have habove : middle.stack.above = kept := hreads.above_eq
    rw [← hmode, hreads.reader_eq, ← habove]

end

/-! ## What gives way -/

/-- Only modifiers give way in a step. -/
theorem mode_of_gaveWay (hshaped : IsShaped text lexer) (hstep : lexer.step = .ok next)
    {offset : Nat} {mode : ModeId} (hevent : .gaveWay offset mode ∈ next.events) :
    mode = .sigilModifiers := by
  by_cases hrest : lexer.cursor.rest = []
  · obtain rfl := Except.ok.inj ((step_of_rest_nil hrest).symm.trans hstep)
    unfold finish at hevent
    split at hevent <;> simp at hevent
  · cases moves_of_step hrest hstep with
    | @mk gone kept found stack habove hgone hreading hfits happly =>
        have hall := hshaped.shaped
        rw [habove, ← hshaped.text_eq] at hall
        have hchange : .gaveWay offset mode ∉ transitionEvents found.transition kept.length := by
          unfold transitionEvents
          split <;> simp
        rcases hall.gone_eq hgone with rfl | ⟨frame, rfl, hmode⟩
        · simp [hchange] at hevent
        · have hgave : offset = lexer.offset ∧ mode = .sigilModifiers := by
            simpa [hchange, hmode, Mode.id] using hevent
          exact hgave.2

/-- What every step shows of its events is shown of all events of a run. -/
theorem forall_events {holds : Lexer → Prop} {shows : Event → Prop}
    (hkeeps : ∀ lexer next, holds lexer → lexer.step = .ok next →
      holds next.lexer ∧ ∀ event ∈ next.events, shows event)
    {count : Nat} {run : Run} (hstart : holds lexer) (h : lexer.pull count = .ok run) :
    ∀ event ∈ run.events, shows event := by
  induction count generalizing lexer run with
  | zero =>
      obtain rfl := Except.ok.inj h
      simp
  | succ count ih =>
      obtain ⟨next, hstep⟩ := exists_step lexer
      obtain ⟨later, hlater⟩ := exists_pull count next.lexer
      obtain ⟨hnext, hshows⟩ := hkeeps lexer next hstart hstep
      simp only [pull, hstep, hlater, bind, Except.bind, pure, Except.pure] at h
      obtain rfl := Except.ok.inj h
      intro event hevent
      rcases List.mem_append.mp hevent with hevent | hevent
      · exact hshows event hevent
      · exact ih hnext hlater event hevent

/-- In no run does anything but modifiers give way. -/
theorem mode_of_gaveWay_of_pull {count : Nat} {run : Run} (hshaped : IsShaped text lexer)
    (h : lexer.pull count = .ok run) :
    ∀ offset mode, .gaveWay offset mode ∈ run.events → mode = .sigilModifiers := by
  have hkeeps (lexer : Lexer) (next : Step) (hbefore : IsShaped text lexer)
      (hstep : lexer.step = .ok next) : IsShaped text next.lexer ∧
        ∀ event ∈ next.events, ∀ offset mode, event = .gaveWay offset mode →
          mode = .sigilModifiers := by
    refine ⟨hbefore.step hstep, ?_⟩
    rintro event hevent offset mode rfl
    exact mode_of_gaveWay hbefore hstep hevent
  intro offset mode hevent
  exact forall_events hkeeps hshaped h _ hevent offset mode rfl

/-- At the end of the text no piece of a sigil is waited for. -/
theorem IsShaped.isSigilHead_eq_false (h : IsShaped text lexer) (hrest : lexer.cursor.rest = []) :
    ∀ frame ∈ lexer.stack.frames, frame.mode.isSigilHead = false := by
  have hoffset : lexer.offset = text.length := by
    have hlength := Cursor.offset_add_remaining lexer.cursor
    rw [Cursor.remaining, hrest, h.text_eq] at hlength
    exact hlength
  have hall := h.shaped
  rw [hoffset] at hall
  refine List.forall_mem_cons.mpr ⟨rfl, ?_⟩
  cases habove : lexer.stack.above with
  | nil => simp
  | cons frame below =>
      rw [habove] at hall
      intro other hmem
      rcases List.mem_cons.mp (List.mem_reverse.mp hmem) with rfl | hmem
      · exact hall.isSigilHead_at_end
      · have hlower := hall.isTransient_beneath other hmem
        cases hmode : other.mode <;> simp_all [Mode.isTransient, Mode.isSigilHead]

/-! ## Whole texts -/

/-- What is promised by the lookahead of sigils, for the tokens that a lexer reads. -/
structure KeepsSigils (start : Lexer) (tokens : List Token) : Prop where
  /-- The letter and the delimiter that the tilde looks at are read behind it. -/
  tildes : ∀ front tilde later, tokens = front ++ tilde :: later → tilde.kind = .tilde →
    ∃ name promoter others, later = name :: promoter :: others ∧ name.kind = .sigilName ∧
      name.span.length = 1 ∧
      (promoter.kind = .sigilPromoter ∨ promoter.kind = .heredocPromoter)
  /-- Each letter behind what closes a sigil is read as a modifier of the sigil. -/
  closers : ∀ front closer later before, tokens = front ++ closer :: later →
    Reads start front before → before.reader.mode.ClosesSigil closer.kind →
    ∃ modifiers others below after, later = modifiers ++ others ∧
      Reads start (front ++ closer :: modifiers) after ∧
      ClosedBy before closer modifiers others below after
  /-- There are no other modifiers. -/
  modifiers : ∀ front modifier later, tokens = front ++ modifier :: later →
    modifier.kind = .sigilModifier →
    ∃ earlier closer others before, front = earlier ++ closer :: others ∧
      Reads start earlier before ∧ before.reader.mode.ClosesSigil closer.kind ∧
      ∀ other ∈ others, other.kind = .sigilModifier

end Lexer

/-- **The lookahead of sigils is kept.**  Whatever the text, every tilde is followed by a letter and
an opening delimiter, what closes a sigil is followed by one modifier for each letter behind it, and
there are no other modifiers.  So the frames of the head of a sigil are never left at the end, and
they never give way, however many tokens are asked for. -/
theorem tokenize_keepsSigils (text : List Char) (options : Options) :
    ∃ lexed last, tokenize options text = .ok lexed ∧
      Lexer.Reads (Lexer.ofText text options) lexed.tokens last ∧ last.cursor.rest = [] ∧
      Lexer.KeepsSigils (Lexer.ofText text options) lexed.tokens ∧
      (∀ frame ∈ lexed.finalFrames, frame.mode.isSigilHead = false) ∧
      ∀ count, ∃ run, (Lexer.ofText text options).pull count = .ok run ∧
        ∀ offset mode, .gaveWay offset mode ∈ run.events → mode = .sigilModifiers := by
  obtain ⟨tokens, last, hreads, hlast, htokenize⟩ := Lexer.exists_reads_of_tokenize text options
  have hshaped := Lexer.IsShaped.ofText text options
  refine ⟨_, last, htokenize, hreads, hlast, {
    tildes := ?_
    closers := ?_
    modifiers := ?_ }, ?_, fun count => ?_⟩
  · rintro front tilde later rfl hkind
    obtain ⟨middle, hfront, hlater⟩ := hreads.exists_of_append
    exact hlater.after_tilde hlast (hshaped.reads hfront) hkind
  · rintro front closer later before rfl hfront hcloses
    obtain ⟨more, final, hmore, hlater, hfinal, -⟩ := hreads.exists_more hlast hfront
    obtain rfl := List.append_cancel_left hmore
    obtain ⟨modifiers, others, below, after, hsplit, hclosed, hends⟩ :=
      hlater.after_closer hfinal (hshaped.reads hfront) hfront.finished hcloses
    exact ⟨modifiers, others, below, after, hsplit, hfront.trans hclosed, hends⟩
  · rintro front modifier later rfl hkind
    rw [← List.singleton_append, ← List.append_assoc] at hreads
    obtain ⟨middle, hfront, -⟩ := hreads.exists_of_append
    exact hfront.before_modifier hshaped (by simp [Lexer.ofText, Stack.initial, Stack.top]) hkind
  · exact hshaped.reads hreads |>.finish.isSigilHead_eq_false (by rw [Lexer.finish_cursor, hlast])
  · obtain ⟨run, hrun⟩ := Lexer.exists_pull count (Lexer.ofText text options)
    exact ⟨run, hrun, Lexer.mode_of_gaveWay_of_pull hshaped hrun⟩

/-- One sigil in the interpolation of another.  The digit is not a letter, so the inner sigil has
one modifier, and behind it the interpolation reads. -/
example : (tokenize {} "~s(#{~r/x/u1})ab".toList).toOption.map
      (fun lexed => lexed.tokens.map fun token => (token.kind, token.state)) =
    some [(.tilde, .sigilName), (.sigilName, .sigilDelimiter), (.sigilPromoter, .group),
      (.interpolationStart, .interpolation), (.tilde, .sigilName), (.sigilName, .sigilDelimiter),
      (.sigilPromoter, .group), (.sigilBody, .group), (.sigilTerminator, .sigilModifiers),
      (.sigilModifier, .sigilModifiers), (.number, .interpolation), (.interpolationEnd, .group),
      (.sigilTerminator, .sigilModifiers), (.sigilModifier, .sigilModifiers),
      (.sigilModifier, .sigilModifiers)] := by
  decide +kernel

end ElixirLexer
