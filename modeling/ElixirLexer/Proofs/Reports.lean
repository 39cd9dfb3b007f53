import ElixirLexer.Proofs.Partition

/-!
# What is reported

Before the end of the text a lexer reports the bad characters that it reads, so its reports can be
told from its tokens (`Reads.diagnostics`).  At the end it reports what is still open, and all of
these reports carry the offset of the end.

A reading that is interrupted somewhere therefore has its reports divided by the offset of that
place: those in front of it have been made, and those from it on are still to come
(`Reads.diagnostics_cut`).  Which frames are open at the end is not asked here.
-/

namespace ElixirLexer

/-! ## The reports of tokens -/

/-- The report of a token, if it is a bad character: the character that stands in the text where the
token starts. -/
def Token.report? (text : List Char) (token : Token) : Option Diagnostic :=
  if token.kind = .badCharacter then
    text[token.span.start]?.map fun c => Diagnostic.badCharacter c token.span.start
  else
    none

/-- The reports of some tokens, in their order. -/
def reports (text : List Char) (options : Options) (tokens : List Token) : List Diagnostic :=
  if options.reportBadCharacters then tokens.filterMap (Token.report? text) else []

section

variable {text : List Char} {options : Options} {tokens : List Token}

@[simp] theorem reports_nil : reports text options [] = [] := by
  simp [reports]

theorem reports_append (more : List Token) :
    reports text options (tokens ++ more) =
      reports text options tokens ++ reports text options more := by
  unfold reports
  split
  · exact List.filterMap_append
  · rfl

/-- A report has the offset of its token. -/
theorem Token.offset_of_report? {token : Token} {diagnostic : Diagnostic}
    (h : token.report? text = some diagnostic) : diagnostic.offset = token.span.start := by
  unfold Token.report? at h
  split at h
  · obtain ⟨c, -, rfl⟩ := Option.map_eq_some_iff.mp h
    rfl
  · simp at h

theorem exists_offset_eq_of_mem_reports {diagnostic : Diagnostic}
    (h : diagnostic ∈ reports text options tokens) :
    ∃ token ∈ tokens, diagnostic.offset = token.span.start := by
  unfold reports at h
  split at h
  · obtain ⟨token, hmem, hreport⟩ := List.mem_filterMap.mp h
    exact ⟨token, hmem, Token.offset_of_report? hreport⟩
  · simp at h

/-- The report of a token is that of a bad character. -/
theorem isUnterminated_of_mem_reports {diagnostic : Diagnostic}
    (h : diagnostic ∈ reports text options tokens) :
    diagnostic.problem.isUnterminated = false := by
  unfold reports at h
  split at h
  · obtain ⟨token, -, hreport⟩ := List.mem_filterMap.mp h
    unfold Token.report? at hreport
    split at hreport
    · obtain ⟨c, -, rfl⟩ := Option.map_eq_some_iff.mp hreport
      rfl
    · simp at hreport
  · simp at h

end

/-- The tokens of a tiling start within it. -/
theorem Tiles.start_bounds {start stop : Nat} {tokens : List Token} (h : Tiles start tokens stop) :
    ∀ token ∈ tokens, start ≤ token.span.start ∧ token.span.start < stop := by
  induction tokens generalizing start with
  | nil => simp
  | cons first later ih =>
      obtain ⟨hstart, hpos, hlater⟩ := h
      have hle := hlater.add_length_le
      simp only [Span.stop] at hle
      refine List.forall_mem_cons.mpr ⟨by omega, ?_⟩
      intro token hmem
      have hbounds := ih hlater token hmem
      simp only [Span.stop] at hbounds
      omega

/-- The tokens of a tiling end within it. -/
theorem Tiles.stop_le {start stop : Nat} {tokens : List Token} (h : Tiles start tokens stop) :
    ∀ token ∈ tokens, token.span.stop ≤ stop := by
  induction tokens generalizing start with
  | nil => simp
  | cons first later ih =>
      obtain ⟨-, -, hlater⟩ := h
      have hle := hlater.add_length_le
      exact List.forall_mem_cons.mpr ⟨by omega, ih hlater⟩

namespace Lexer

/-! ## Reports before the end of the text -/

/-- A step adds the report of its token. -/
theorem Moves.diagnostics {lexer : Lexer} {step : Step} (h : Moves lexer step) :
    step.lexer.diagnostics =
      lexer.diagnostics ++ reports lexer.cursor.text lexer.options [step.token] := by
  cases h with
  | @mk gone kept found stack habove hgone hreading hfits happly =>
      have hfirst : lexer.cursor.first? = lexer.cursor.text[lexer.offset]? := by
        rw [Cursor.first?, lexer.cursor.rest_eq_drop, List.head?_drop, Lexer.offset]
      have hreports : lexer.badCharacters found = reports lexer.cursor.text lexer.options
          [⟨found.kind, ⟨lexer.offset, found.length⟩, stack.top.mode.id, found.indent⟩] := by
        unfold badCharacters reports
        rw [hfirst]
        by_cases hreport : lexer.options.reportBadCharacters
        · by_cases hkind : found.kind = .badCharacter
          · cases hchar : lexer.cursor.text[lexer.offset]? <;>
              simp [Token.report?, hreport, hkind, hchar]
          · simp [Token.report?, hkind]
        · simp [hreport]
      exact congrArg (lexer.diagnostics ++ ·) hreports

namespace Reads

variable {start place last : Lexer} {front later : List Token}

/-- A reading adds the reports of its tokens. -/
theorem diagnostics (h : Reads start front last) :
    last.diagnostics =
      start.diagnostics ++ reports start.cursor.text start.options front := by
  induction h with
  | refl => simp
  | snoc before hrest hstep ih =>
      rw [(moves_of_step hrest hstep).diagnostics, ih, before.text, before.options,
        reports_append, List.append_assoc]

theorem offset_le (h : Reads start front last) : start.offset ≤ last.offset :=
  Nat.le_trans (Nat.le_add_right _ _) h.tiles.add_length_le

/-- What is reported on the way is found between the two ends of the reading. -/
theorem offset_bounds (h : Reads start front last) {text : List Char} {options : Options} :
    ∀ diagnostic ∈ reports text options front,
      start.offset ≤ diagnostic.offset ∧ diagnostic.offset < last.offset := by
  intro diagnostic hmem
  obtain ⟨token, htoken, hoffset⟩ := exists_offset_eq_of_mem_reports hmem
  rw [hoffset]
  exact h.tiles.start_bounds token htoken

end Reads

/-! ## Reports at the end of the text -/

theorem offset_eq_of_mem_unterminated {stack : Stack} {offset : Nat} {diagnostic : Diagnostic}
    (h : diagnostic ∈ unterminated stack offset) : diagnostic.offset = offset := by
  obtain ⟨frame, -, hframe⟩ := List.mem_filterMap.mp h
  obtain ⟨problem, -, rfl⟩ := Option.map_eq_some_iff.mp hframe
  rfl

/-- The problem of a construct that is still open is that it lacks its end. -/
theorem isUnterminated_of_ofOpen? {mode : Mode} {problem : Problem}
    (h : Problem.ofOpen? mode = some problem) : problem.isUnterminated = true := by
  cases mode with
  | initial | sigilModifiers => simp [Problem.ofOpen?] at h
  | group group =>
      simp only [Problem.ofOpen?] at h
      split at h <;> obtain rfl := Option.some.inj h <;> rfl
  | _ =>
      obtain rfl := Option.some.inj h
      rfl

theorem isUnterminated_of_mem_unterminated {stack : Stack} {offset : Nat} {diagnostic : Diagnostic}
    (h : diagnostic ∈ unterminated stack offset) : diagnostic.problem.isUnterminated = true := by
  obtain ⟨frame, -, hframe⟩ := List.mem_filterMap.mp h
  obtain ⟨problem, hproblem, rfl⟩ := Option.map_eq_some_iff.mp hframe
  exact isUnterminated_of_ofOpen? hproblem

/-- The reports of tokens and the reports of the end can be told apart by their problems. -/
theorem filter_isUnterminated (text : List Char) (options : Options) (tokens : List Token)
    (stack : Stack) (offset : Nat) :
    let all := reports text options tokens ++ unterminated stack offset
    (all.filter fun diagnostic => diagnostic.problem.isUnterminated) = unterminated stack offset ∧
      (all.filter fun diagnostic => !diagnostic.problem.isUnterminated) =
        reports text options tokens := by
  have hbad : ∀ diagnostic ∈ reports text options tokens,
      diagnostic.problem.isUnterminated = false := fun _ => isUnterminated_of_mem_reports
  have hended : ∀ diagnostic ∈ unterminated stack offset,
      diagnostic.problem.isUnterminated = true := fun _ => isUnterminated_of_mem_unterminated
  constructor
  · rw [List.filter_append, List.filter_eq_nil_iff.mpr (by simpa using hbad),
      List.filter_eq_self.mpr hended, List.nil_append]
  · rw [List.filter_append, List.filter_eq_self.mpr (by simpa using hbad),
      List.filter_eq_nil_iff.mpr (by simpa using hended), List.append_nil]

theorem offset_of_rest_nil {lexer : Lexer} (h : lexer.cursor.rest = []) :
    lexer.offset = lexer.cursor.text.length := by
  have hlength := Cursor.offset_add_remaining lexer.cursor
  simpa [Cursor.remaining, h, Lexer.offset] using hlength

theorem finish_stack {lexer : Lexer} (h : lexer.finished = false) :
    lexer.finish.lexer.stack = withoutModifiers lexer.stack := by
  simp [finish, h]

theorem finish_diagnostics {lexer : Lexer} (h : lexer.finished = false) :
    lexer.finish.lexer.diagnostics =
      lexer.diagnostics ++ unterminated (withoutModifiers lexer.stack) lexer.offset := by
  simp [finish, h]

/-- What is reported from a place on, if the tokens ahead of it are `later` and lead to `last`. -/
def reportsAhead (last : Lexer) (later : List Token) : List Diagnostic :=
  reports last.cursor.text last.options later ++
    unterminated (withoutModifiers last.stack) last.offset

theorem Reads.diagnostics_finish {place last : Lexer} {later : List Token}
    (h : Reads place later last) (hfinished : place.finished = false) :
    last.finish.lexer.diagnostics = place.diagnostics ++ reportsAhead last later := by
  have hunfinished : last.finished = false := by rw [h.finished, hfinished]
  rw [finish_diagnostics hunfinished, h.diagnostics, reportsAhead, h.text, h.options,
    List.append_assoc]

/-- What a whole text has reported is what its tokens report and what is open at the end. -/
theorem Reads.finish_of_text {text : List Char} {options : Options} {tokens : List Token}
    {last : Lexer} (h : Reads (ofText text options) tokens last) :
    last.finish.lexer.stack = withoutModifiers last.stack ∧
      last.finish.lexer.diagnostics =
        reports text options tokens ++ unterminated (withoutModifiers last.stack) last.offset := by
  refine ⟨finish_stack h.finished, ?_⟩
  rw [h.diagnostics_finish rfl, reportsAhead, h.text, h.options, ofText, Cursor.text_ofText,
    List.nil_append]

/-- The place behind some of the tokens divides the reports of the whole reading by their
offsets. -/
theorem Reads.diagnostics_cut {start place last : Lexer} {front later : List Token}
    (hfront : Reads start front place) (hlater : Reads place later last)
    (hreports : start.diagnostics = []) (hfinished : start.finished = false) :
    last.finish.lexer.diagnostics.filter (fun diagnostic => diagnostic.offset < place.offset) =
        place.diagnostics ∧
      last.finish.lexer.diagnostics.filter (fun diagnostic => place.offset ≤ diagnostic.offset) =
        reportsAhead last later := by
  have hlast := hlater.diagnostics_finish (hfront.finished.trans hfinished)
  have hbefore : ∀ diagnostic ∈ place.diagnostics, diagnostic.offset < place.offset := by
    rw [hfront.diagnostics, hreports, List.nil_append]
    intro diagnostic hmem
    exact (hfront.offset_bounds diagnostic hmem).2
  have hahead : ∀ diagnostic ∈ reportsAhead last later, place.offset ≤ diagnostic.offset := by
    intro diagnostic hmem
    rcases List.mem_append.mp hmem with hmem | hmem
    · exact (hlater.offset_bounds diagnostic hmem).1
    · rw [offset_eq_of_mem_unterminated hmem]
      exact hlater.offset_le
  rw [hlast, List.filter_append, List.filter_append]
  constructor
  · have hkept : place.diagnostics.filter (fun diagnostic => diagnostic.offset < place.offset) =
        place.diagnostics := by
      simpa [List.filter_eq_self] using hbefore
    have hdropped : (reportsAhead last later).filter
        (fun diagnostic => diagnostic.offset < place.offset) = [] := by
      simpa [List.filter_eq_nil_iff] using hahead
    rw [hkept, hdropped, List.append_nil]
  · have hdropped : place.diagnostics.filter
        (fun diagnostic => place.offset ≤ diagnostic.offset) = [] := by
      simpa [List.filter_eq_nil_iff] using hbefore
    have hkept : (reportsAhead last later).filter
        (fun diagnostic => place.offset ≤ diagnostic.offset) = reportsAhead last later := by
      simpa [List.filter_eq_self] using hahead
    rw [hkept, hdropped, List.nil_append]

end Lexer

end ElixirLexer
