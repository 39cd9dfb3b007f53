import ElixirLexer.Proofs.Embedding
import ElixirLexer.Proofs.Restart

/-!
# Texts one behind the other

Two texts, the first of which ends with a line break of plain code, are lexed together as they are
lexed one by one, the second one moved behind the first (`tokenize_append`).  The second text is
read on the frames that the first one leaves, which are none, and all that stands behind it is the
end of the text in both cases, so it stays the same in every respect.  The first text has the second
behind it.  Its tokens do not reach over the line break, but the search for the line that closes a
heredoc may do so, and what a heredoc line loses may change.

A byte-order mark at the start of the second text is one only if nothing stands in front of it, so
either there is none or it must not be accepted.
-/

namespace ElixirLexer

/-! ## Moved stacks -/

/-- The stack of a lexer that has begun `count` characters later. -/
def Stack.moved (count : Nat) (stack : Stack) : Stack :=
  { stack with above := stack.above.map (Frame.moved count) }

/-- The modifiers on top are dropped before or after the frames are moved. -/
theorem Lexer.withoutModifiers_moved (count : Nat) (stack : Stack) :
    withoutModifiers (stack.moved count) = (withoutModifiers stack).moved count := by
  simp only [withoutModifiers, Stack.moved, List.dropWhile_map]
  rfl

/-- What is reported of frames that are still open moves with them. -/
theorem Lexer.unterminated_moved (count offset : Nat) (stack : Stack) :
    unterminated (stack.moved count) (offset + count) =
      (unterminated stack offset).map (Diagnostic.moved count) := by
  simp only [unterminated, Stack.moved, List.filterMap_map, List.map_filterMap]
  refine List.filterMap_congr fun frame _ => ?_
  simp [Diagnostic.unterminated?, Frame.moved, Option.map_map]
  rfl

/-- If nothing follows the part, its frames are the same, moved. -/
theorem Setting.eq_map_of_carries {setting : Setting} {above upper : List Frame}
    (hstrict : setting.strict = true) (h : List.Forall₂ setting.Carries above upper) :
    upper = above.map (Frame.moved setting.lead.length) := by
  induction h with
  | nil => rfl
  | @cons frame other below upperBelow hframe hbelow ih =>
      have hmode : other.mode = frame.mode := by
        simpa [Mode.seen, hstrict] using hframe.mode_eq
      have hopened := hframe.openedAt_eq
      have hother : other = frame.moved setting.lead.length := by
        obtain ⟨mode, openedAt⟩ := other
        obtain rfl : mode = frame.mode := hmode
        obtain rfl : openedAt = frame.openedAt + setting.lead.length := hopened
        rfl
      rw [List.map_cons, ih, hother]

/-! ## The first text -/

theorem Diagnostic.map_moved_zero (diagnostics : List Diagnostic) :
    diagnostics.map (Diagnostic.moved 0) = diagnostics :=
  List.map_id diagnostics

/-- In plain code a token is only moved. -/
theorem Setting.token_plain (setting : Setting) (h : setting.ground = .plain) (token : Token) :
    setting.token token = token.moved setting.lead.length := by
  rw [Setting.token, h]
  simp only [Token.inside, Ground.state]
  split
  · next hstate => rw [← hstate]
  · rfl

namespace Lexer

/-- What is read of the first text alone is read of it in front of the second, and nothing is left
open. -/
theorem Reads.exists_front {first : List Char} {options : Options} {tokens : List Token}
    {last : Lexer} (hreads : Reads (ofText first options) tokens last) (second : List Char)
    (hlast : last.cursor.rest = [])
    (hends : first = [] ∨ EndsLine first second ∧ EndsInBreak tokens) :
    ∃ early middle, Reads (ofText (first ++ second) options) early middle ∧
      early.map Token.unindented = tokens.map Token.unindented ∧
      reports (first ++ second) options early = reports first options tokens ∧
      middle.cursor = ⟨first.reverse, second⟩ ∧ middle.stack = .initial := by
  by_cases hfirst : first = []
  · subst hfirst
    obtain ⟨rfl, rfl⟩ := hreads.eq_of_rest_nil rfl
    exact ⟨[], _, .refl, rfl, by simp, rfl, rfl⟩
  · let setting : Setting := ⟨false, [], second, .plain⟩
    have hembeds : setting.Embeds 0 (ofText first options) (ofText (first ++ second) options) := by
      refine Setting.embeds_ofText (ofText (first ++ second) options) rfl rfl (fun _ => ?_)
        (.inl rfl)
      exact List.head?_append_of_ne_nil _ hfirst
    obtain ⟨early, middle, hearly, htokens, hcursor, habove⟩ :=
      hembeds.exists_reads rfl hreads hlast hends (Ground.countAll_plain 0 tokens)
    have hreports := setting.reports_eq options hreads.start_lt htokens
    simp only [setting.token_plain rfl] at htokens
    refine ⟨early, middle, hearly, htokens, hreports.trans (Diagnostic.map_moved_zero _), ?_, ?_⟩
    · simpa [setting] using hcursor
    · rw [((IsShaped.ofText _ options).reads hearly).stack_eq, habove]
      rfl

/-! ## The second text -/

/-- What is read of the second text alone is read of it behind the first, moved. -/
theorem Reads.exists_back {first second : List Char} {middle last : Lexer} {tokens : List Token}
    (hreads : Reads (ofText second middle.options) tokens last)
    (hcursor : middle.cursor = ⟨first.reverse, second⟩) (hstack : middle.stack = .initial)
    (hmark : first = [] ∨ second.head? ≠ some byteOrderMark ∨
      middle.options.acceptByteOrderMark = false) :
    ∃ behind, Reads middle (tokens.map (Token.moved first.length)) behind ∧
      behind.cursor.rest = last.cursor.rest ∧ behind.offset = last.offset + first.length ∧
      behind.stack = last.stack.moved first.length ∧
      reports (first ++ second) middle.options (tokens.map (Token.moved first.length)) =
        (reports second middle.options tokens).map (Diagnostic.moved first.length) := by
  let setting : Setting := ⟨true, first, [], .plain⟩
  have hembeds : setting.Embeds 0 (ofText second middle.options) middle := by
    refine Setting.embeds_ofText middle ?_ ?_ (fun _ => by simp [setting]) hmark
    · simp [setting, hcursor]
    · rw [hstack]
      rfl
  obtain ⟨later, behind, hlater, htokens, hlast⟩ := hembeds.reads (.inl ⟨rfl, rfl⟩)
    (.ofText second middle.options) hreads (by simp [setting]) (Ground.countAll_plain 0 tokens)
  have hreports := setting.reports_eq middle.options hreads.start_lt htokens
  simp only [setting.token_plain rfl] at htokens
  obtain rfl : later = tokens.map (Token.moved first.length) :=
    (List.map_id later).symm.trans htokens
  refine ⟨behind, hlater, ?_, hlast.offset_eq, ?_, ?_⟩
  · rw [hlast.rest_eq, List.append_nil]
  · have hshaped : IsShaped (first ++ second) middle := {
      text_eq := by simp [Cursor.text, hcursor]
      base_eq := by rw [hstack]; rfl
      shaped := by rw [hstack]; exact .nil }
    obtain ⟨upper, habove, hcarries⟩ := hlast.above_eq
    rw [Setting.eq_map_of_carries rfl hcarries] at habove
    have hsame : behind.stack.above = last.stack.above.map (Frame.moved first.length) :=
      habove.trans (List.append_nil _)
    rw [(hshaped.reads hlater).stack_eq, hsame,
      ((IsShaped.ofText second middle.options).reads hreads).stack_eq]
    rfl
  · rwa [List.append_nil] at hreports

end Lexer

/-! ## Both texts -/

/-- `whole` says about a text what `front` says about its first `count` characters and `back` about
the rest, and nothing that `front` begins is open behind these characters. -/
structure Lexed.Joins (count : Nat) (front back whole : Lexed) : Prop where
  /-- Only what the lines of a heredoc lose may be different. -/
  tokens_eq : ∃ early, early.map Token.unindented = front.tokens.map Token.unindented ∧
    whole.tokens = early ++ back.tokens.map (Token.moved count)
  diagnostics_eq : whole.diagnostics =
    (front.diagnostics.filter fun diagnostic => !diagnostic.problem.isUnterminated) ++
      back.diagnostics.map (Diagnostic.moved count)
  finalFrames_eq : ∃ above, back.finalFrames = ⟨.initial, 0⟩ :: above ∧
    whole.finalFrames = ⟨.initial, 0⟩ :: above.map (Frame.moved count)

/-- **Texts are lexed line by line.**  If the first text ends with a newline that is read as a line
break of plain code, or is empty, and the second does not begin with a mark that would be accepted,
then the tokens, the reports and the open frames of both texts together are those of the first text
and those of the second, moved.  That every construct of the first text has its end need not be
asked: nothing is open behind a line break of plain code. -/
theorem tokenize_append {options : Options} {first second : List Char} {front : Lexed}
    (hfront : tokenize options first = .ok front)
    (hends : first = [] ∨ first.getLast? = some '\n' ∧ EndsInBreak front.tokens)
    (hmark : first = [] ∨ second.head? ≠ some byteOrderMark ∨
      options.acceptByteOrderMark = false) :
    ∃ back whole, tokenize options second = .ok back ∧
      tokenize options (first ++ second) = .ok whole ∧ front.Joins first.length back whole := by
  obtain ⟨tokens, last, hreads, hlast, htokenize⟩ :=
    Lexer.exists_reads_of_tokenize first options
  obtain rfl := Except.ok.inj (hfront.symm.trans htokenize)
  obtain ⟨early, middle, hearly, htokens, hreports, hcursor, hstack⟩ :=
    hreads.exists_front second hlast (hends.imp_right (And.imp_left .inl))
  have hoptions : middle.options = options := hearly.options
  obtain ⟨later, final, hlater, hfinal, hback⟩ := Lexer.exists_reads_of_tokenize second options
  rw [← hoptions] at hlater hmark
  obtain ⟨behind, hbehind, hrest, hoffset, hframes, hmoved⟩ :=
    hlater.exists_back hcursor hstack hmark
  have hwhole := hearly.trans hbehind
  have hend : behind.cursor.rest = [] := hrest.trans hfinal
  obtain ⟨-, hreported⟩ := hreads.finish_of_text
  obtain ⟨hopen, hended⟩ := hlater.finish_of_text
  obtain ⟨hopenWhole, hendedWhole⟩ := hwhole.finish_of_text
  rw [hframes, Lexer.withoutModifiers_moved] at hopenWhole hendedWhole
  refine ⟨_, _, hback, hwhole.tokenize_eq hend, ?_⟩
  exact {
    tokens_eq := ⟨early, htokens, rfl⟩
    diagnostics_eq := by
      show behind.finish.lexer.diagnostics = last.finish.lexer.diagnostics.filter _ ++
        final.finish.lexer.diagnostics.map _
      rw [hreported, (Lexer.filter_isUnterminated _ _ _ _ _).2, hended, hendedWhole, hoffset,
        Lexer.unterminated_moved, reports_append, hreports, List.map_append, ← hmoved, hoptions,
        List.append_assoc]
    finalFrames_eq := by
      have hbase := ((Lexer.IsShaped.ofText second middle.options).reads hlater).base_eq
      refine ⟨(Lexer.withoutModifiers final.stack).above.reverse, ?_, ?_⟩
      · simp [hopen, Stack.frames, Lexer.withoutModifiers, hbase]
      · simp [hopenWhole, Stack.frames, Stack.moved, Lexer.withoutModifiers, hbase] }

/-- A heredoc whose interpolation holds an opening brace as a character literal, and a line break.
-/
def openHeredoc : List Char :=
  ['"', '"', '"', '\n', '#', '{', '?', '{', '}', '\n', ' ', 'x', '\n', ' ', '"', '"', '"', '\n']

/-- The second text closes the brace once more, and what looks like the end of the heredoc follows:
the line ` x` of the first text loses its blank only if the second text is there. -/
theorem tokenize_append_openHeredoc :
    ∃ front, tokenize {} openHeredoc = .ok front ∧
      (openHeredoc.getLast? = some '\n' ∧ EndsInBreak front.tokens) ∧
      ['}', '\n', ' ', '"', '"', '"'].head? ≠ some byteOrderMark ∧
      ∃ back whole, tokenize {} ['}', '\n', ' ', '"', '"', '"'] = .ok back ∧
        tokenize {} (openHeredoc ++ ['}', '\n', ' ', '"', '"', '"']) = .ok whole ∧
        front.Joins 18 back whole := by
  obtain ⟨tokens, last, -, -, htokenize⟩ := Lexer.exists_reads_of_tokenize openHeredoc {}
  have hlast : (tokenize {} openHeredoc).toOption.bind (fun front => front.tokens.getLast?) =
      some ⟨.eol, ⟨17, 1⟩, .initial, 0⟩ := by
    decide +kernel
  rw [htokenize] at hlast
  have hends : openHeredoc.getLast? = some '\n' ∧ EndsInBreak tokens :=
    ⟨rfl, _, hlast, rfl, rfl⟩
  have hmark : ['}', '\n', ' ', '"', '"', '"'].head? ≠ some byteOrderMark := by decide
  exact ⟨_, htokenize, hends, hmark,
    tokenize_append htokenize (.inr hends) (.inr (.inl hmark))⟩

end ElixirLexer
