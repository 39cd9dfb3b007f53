import Mathlib.Data.List.Forall2
import ElixirLexer.Proofs.Locality

/-!
# A text inside another

A text is lexed alone by one lexer and as a part of a longer text by another.  The second lexer
stands further on by what lies in front of the part, and has its frames on top of others: on none in
plain code, or on those of an interpolation that the part stands in (`Ground`).  This file says what
the two have in common (`Setting.Embeds`) and that they see the same, as long as nothing behind the
part is looked at (`Setting.Embeds.exists_choose`).

Nothing behind the part is looked at if there is nothing, and then even the indentation of heredocs
is the same; the setting is called strict.  Otherwise the part has to end with a line break, and a
match must end in front of that or be the line break.
-/

namespace ElixirLexer

/-! ## Moved offsets -/

/-- A frame of a construct that begins `count` characters later. -/
def Frame.moved (count : Nat) (frame : Frame) : Frame :=
  { frame with openedAt := frame.openedAt + count }

/-- A token that starts `count` characters later. -/
def Token.moved (count : Nat) (token : Token) : Token :=
  { token with span := { token.span with start := token.span.start + count } }

/-- A report of what stands `count` characters later. -/
def Diagnostic.moved (count : Nat) (diagnostic : Diagnostic) : Diagnostic :=
  { diagnostic with
    offset := diagnostic.offset + count
    origin := diagnostic.origin + count }

/-- A token of plain code that is read in the mode of an interpolation, or stays as it is. -/
def Token.inside (ground : ModeId) (token : Token) : Token :=
  { token with state := if token.state = .initial then ground else token.state }

/-- A token without the indentation that a line of a heredoc has lost. -/
def Token.unindented (token : Token) : Token :=
  { token with indent := if token.kind = .heredocLine then 0 else token.indent }

/-! ## Views -/

/-- What counts of a mode: all of it, or all but the indentation of its heredoc. -/
def Mode.seen (strict : Bool) (mode : Mode) : Mode :=
  if strict then mode else mode.unindented

/-- What counts of a token. -/
def Token.seen (strict : Bool) (token : Token) : Token :=
  if strict then token else token.unindented

@[simp] theorem Mode.id_seen (strict : Bool) (mode : Mode) : (mode.seen strict).id = mode.id := by
  cases strict
  · exact mode.id_unindented
  · rfl

/-- Two matches that count as the same. -/
structure Match.Resembles (strict : Bool) (found other : Match) : Prop where
  kind_eq : other.kind = found.kind
  length_eq : other.length = found.length
  indent_eq : strict = true ∨ found.kind ≠ .heredocLine → other.indent = found.indent
  transition_eq : other.transition.map (Mode.seen strict) =
    found.transition.map (Mode.seen strict)

theorem Match.Resembles.refl (strict : Bool) (found : Match) : found.Resembles strict found :=
  ⟨rfl, rfl, fun _ => rfl, rfl⟩

theorem Match.resembles_of_unindented {found other : Match}
    (h : other.unindented = found.unindented) : found.Resembles false other := by
  have hkind : other.kind = found.kind := (congrArg Match.kind h :)
  refine ⟨hkind, (congrArg Match.length h :), fun hindent => ?_, (congrArg Match.transition h :)⟩
  have hsame := congrArg Match.indent h
  simpa only [unindented, hkind, if_neg (hindent.resolve_left (by simp))] using hsame

/-! ## Settings -/

/-- What a part of a text is read on: nothing in plain code, or an open interpolation, its offset
and the frames beneath it. -/
inductive Ground
  | plain
  | interpolation (openedAt : Nat) (lower : List Frame)

namespace Ground

/-- The frames of the ground, with so many braces open in it. -/
def frames (depth : Nat) : Ground → List Frame
  | plain => []
  | interpolation openedAt lower => ⟨.interpolation depth, openedAt⟩ :: lower

/-- The mode of the ground. -/
def state : Ground → ModeId
  | plain => .initial
  | interpolation _ _ => .interpolation

end Ground

/-- The number of braces that are open behind a token, if so many are open in front of it.  Only the
braces of plain code count, and none is closed that has not been opened. -/
def Token.braces (depth : Nat) (token : Token) : Option Nat :=
  if token.state ≠ .initial then some depth
  else if token.kind = .openBrace then some (depth + 1)
  else if token.kind = .closeBrace then if depth = 0 then none else some (depth - 1)
  else some depth

/-- The number of braces that are open behind some tokens. -/
def openBraces (depth : Nat) (tokens : List Token) : Option Nat :=
  tokens.foldlM Token.braces depth

/-- Braces count only where the ground is an interpolation. -/
def Ground.count (depth : Nat) (token : Token) : Ground → Option Nat
  | plain => some depth
  | interpolation _ _ => token.braces depth

/-- The count behind some tokens. -/
def Ground.countAll (depth : Nat) (tokens : List Token) (ground : Ground) : Option Nat :=
  tokens.foldlM (fun depth token => ground.count depth token) depth

theorem Ground.countAll_plain (depth : Nat) (tokens : List Token) :
    countAll depth tokens .plain = some depth := by
  induction tokens with
  | nil => rfl
  | cons token later ih => simpa [countAll, count] using ih

/-- What becomes of a match that is found under these frames of the part: on the ground itself,
braces are counted. -/
def Ground.adapt (depth : Nat) (kept : List Frame) (found : Match) : Ground → Match
  | plain => found
  | interpolation _ _ => if kept = [] then found.counted depth else found

/-- The place of a text inside another: what stands in front of it and behind it, and what it is
read on. -/
structure Setting where
  strict : Bool
  lead : List Char
  tail : List Char
  ground : Ground

namespace Setting

/-- Nothing follows the text, or it ends with a line break. -/
def Suits (setting : Setting) (text : List Char) : Prop :=
  setting.strict = true ∧ setting.tail = [] ∨
    setting.strict = false ∧ EndsLine text setting.tail

/-- What becomes of a token. -/
def token (setting : Setting) (token : Token) : Token :=
  (token.moved setting.lead.length).inside setting.ground.state

/-- What becomes of a frame. -/
structure Carries (setting : Setting) (frame other : Frame) : Prop where
  mode_eq : other.mode.seen setting.strict = frame.mode.seen setting.strict
  openedAt_eq : other.openedAt = frame.openedAt + setting.lead.length

/-- `outer` reads as a part of its text what `inner` reads alone, with `depth` braces open in the
interpolation that the part stands in. -/
structure Embeds (setting : Setting) (depth : Nat) (inner outer : Lexer) : Prop where
  before_eq : outer.cursor.before = inner.cursor.before ++ setting.lead.reverse
  rest_eq : outer.cursor.rest = inner.cursor.rest ++ setting.tail
  above_eq : ∃ upper, outer.stack.above = upper ++ setting.ground.frames depth ∧
    List.Forall₂ setting.Carries inner.stack.above upper
  /-- At the start of the part a byte-order mark is taken in the same way by both. -/
  start_eq : inner.cursor.before ≠ [] ∨ inner.stack.above = [] ∧
    Scan.hasByteOrderMark ⟨outer.cursor, .initial, outer.options⟩ =
      Scan.hasByteOrderMark ⟨inner.cursor, .initial, inner.options⟩

end Setting

namespace Setting.Embeds

variable {setting : Setting} {text : List Char} {depth : Nat} {inner outer : Lexer}

theorem offset_eq (h : setting.Embeds depth inner outer) :
    outer.offset = inner.offset + setting.lead.length := by
  simp [Lexer.offset, Cursor.offset, h.before_eq]

/-- Both take a byte-order mark in the same way. -/
theorem mark_eq (h : setting.Embeds depth inner outer) (mode other : Mode) :
    Scan.hasByteOrderMark ⟨outer.cursor, mode, outer.options⟩ =
      Scan.hasByteOrderMark ⟨inner.cursor, other, inner.options⟩ := by
  rcases h.start_eq with hbefore | ⟨-, hmark⟩
  · have houter : outer.cursor.before ≠ [] := by simp [h.before_eq, hbefore]
    rw [Scan.hasByteOrderMark_of_before _ _ hbefore, Scan.hasByteOrderMark_of_before _ _ houter]
  · exact hmark

/-- Behind the first character both are at the start of a line, or neither is. -/
theorem atLineStart_eq (h : setting.Embeds depth inner outer) (hbefore : inner.cursor.before ≠ []) :
    outer.cursor.atLineStart = inner.cursor.atLineStart := by
  obtain ⟨c, behind, hcons⟩ := List.exists_cons_of_ne_nil hbefore
  simp [Cursor.atLineStart, h.before_eq, hcons]

/-! ## Classification -/

section

variable {mode other : Mode} (hsuits : setting.Suits text) (h : setting.Embeds depth inner outer)
  (htext : inner.cursor.text = text) (hrest : inner.cursor.rest ≠ [])
  (hmode : other.seen setting.strict = mode.seen setting.strict) (hproper : mode.IsProper)
  (hline : mode.isLined → inner.cursor.before ≠ [])

include hsuits h htext hrest hmode hproper hline

/-- Where a group does not reach over the rest of the text, both see the same. -/
theorem classify_cases (hbody : setting.strict = false → ∀ body, mode = .group body →
      (bodyReach body body.depth inner.cursor.rest).length < inner.cursor.rest.length) :
    setting.strict = true ∧
        classify outer.cursor other outer.options = classify inner.cursor mode inner.options ∨
      setting.strict = false ∧ (classify outer.cursor other outer.options).unindented =
        (classify inner.cursor mode inner.options).unindented := by
  rcases hsuits with ⟨hstrict, htail⟩ | ⟨hstrict, hends⟩
  · obtain rfl : other = mode := by simpa [hstrict, Mode.seen] using hmode
    refine .inl ⟨hstrict, classify_congr ?_⟩
    exact {
      rest_eq := by
        have hsame := h.rest_eq
        rw [htail, List.append_nil] at hsame
        exact hsame
      mode_eq := rfl
      mark_eq := h.mark_eq _ _
      lineStart_eq := fun hlined => h.atLineStart_eq (hline hlined) }
  · have hrestEnds : EndsLine inner.cursor.rest setting.tail := by
      rw [← htext] at hends
      exact hends.of_append _ hrest
    have hextends : Scan.Extends setting.tail ⟨inner.cursor, mode, inner.options⟩
        ⟨outer.cursor, other, outer.options⟩ := {
      rest_eq := h.rest_eq
      endsLine := hrestEnds
      mode_eq := Mode.exists_reindent (by simpa [hstrict, Mode.seen] using hmode)
      isProper := hproper
      body_lt := hbody hstrict
      mark_eq := h.mark_eq _ _
      lineStart_eq := fun hlined => h.atLineStart_eq (hline hlined) }
    exact .inr ⟨hstrict, classify_extends hextends⟩

theorem exists_emit {found : Match}
    (hemit : classify inner.cursor mode inner.options = .emit found)
    (hshort : setting.strict = false →
      found.length < inner.cursor.rest.length ∨ found.kind = .eol) :
    ∃ same, classify outer.cursor other outer.options = .emit same ∧
      found.Resembles setting.strict same := by
  have hbody : setting.strict = false → ∀ body, mode = .group body →
      (bodyReach body body.depth inner.cursor.rest).length < inner.cursor.rest.length := by
    rintro hstrict body rfl
    obtain ⟨hreach, hkind⟩ := length_bodyReach_le_of_emit hrest hemit
    have hlt := (hshort hstrict).resolve_right hkind
    omega
  rcases classify_cases hsuits h htext hrest hmode hproper hline hbody with
    ⟨-, hsame⟩ | ⟨hstrict, hsame⟩
  · exact ⟨found, hsame.trans hemit, .refl _ _⟩
  · rw [hemit] at hsame
    cases hother : classify outer.cursor other outer.options with
    | giveWay =>
        rw [hother] at hsame
        simp [Outcome.unindented] at hsame
    | emit same =>
        rw [hother] at hsame
        rw [hstrict]
        exact ⟨same, rfl, Match.resembles_of_unindented (Outcome.emit.inj hsame)⟩

theorem classify_giveWay (hgive : classify inner.cursor mode inner.options = .giveWay) :
    classify outer.cursor other outer.options = .giveWay := by
  have hbody : setting.strict = false → ∀ body, mode = .group body →
      (bodyReach body body.depth inner.cursor.rest).length < inner.cursor.rest.length := by
    rintro - body rfl
    cases givesWay_of_giveWay hgive
  rcases classify_cases hsuits h htext hrest hmode hproper hline hbody with
    ⟨-, hsame⟩ | ⟨-, hsame⟩
  · exact hsame.trans hgive
  · rw [hgive] at hsame
    cases hother : classify outer.cursor other outer.options with
    | giveWay => rfl
    | emit same =>
        rw [hother] at hsame
        simp [Outcome.unindented] at hsame

end

/-- The same frames give way, and beneath them the same match is chosen. -/
theorem exists_choose (hsuits : setting.Suits text) (h : setting.Embeds depth inner outer)
    (htext : inner.cursor.text = text) (hrest : inner.cursor.rest ≠ []) {above upper : List Frame}
    {base : Nat} {choice : Choice} (base' : Nat)
    (hcarries : List.Forall₂ setting.Carries above upper)
    (hproper : ∀ frame ∈ above, frame.mode.IsProper)
    (hbefore : above ≠ [] → inner.cursor.before ≠ [])
    (hchoose : Lexer.choose inner.cursor inner.options base above = .ok choice)
    (hshort : setting.strict = false →
      choice.found.length < inner.cursor.rest.length ∨ choice.found.kind = .eol) :
    ∃ same kept events, choice.found.Resembles setting.strict same ∧
      List.Forall₂ setting.Carries choice.stack.above kept ∧
      Lexer.choose outer.cursor outer.options base' (upper ++ setting.ground.frames depth) =
        .ok ⟨setting.ground.adapt depth choice.stack.above same,
          ⟨kept ++ setting.ground.frames depth, base'⟩, events⟩ := by
  -- By induction on the frames: those that give way alone give way in the setting too.
  induction hcarries generalizing choice with
  | nil =>
      rw [Lexer.choose] at hchoose
      cases hclass : classify inner.cursor .initial inner.options with
      | giveWay => simp [hclass] at hchoose
      | emit found =>
          simp only [hclass] at hchoose
          obtain rfl := Except.ok.inj hchoose
          obtain ⟨same, hsame, hresembles⟩ := exists_emit hsuits h htext hrest
            (rfl : Mode.initial.seen setting.strict = _) trivial (by simp [Mode.isLined]) hclass
            hshort
          refine ⟨same, [], [], hresembles, .nil, ?_⟩
          -- No frame of the part is left, so the longer text is read on the ground.
          cases hground : setting.ground with
          | plain => simp [Ground.frames, Ground.adapt, Lexer.choose, hsame]
          | interpolation openedAt lower =>
              have houter : outer.cursor.rest ≠ [] := by simp [h.rest_eq, hrest]
              simp [Ground.frames, Ground.adapt, Lexer.choose,
                classify_interpolation depth houter hsame]
  | @cons frame other below upperBelow hframe hbelow ih =>
      obtain ⟨hfirst, hothers⟩ := List.forall_mem_cons.mp hproper
      have hstarted : inner.cursor.before ≠ [] := hbefore (List.cons_ne_nil _ _)
      rw [Lexer.choose] at hchoose
      cases hclass : classify inner.cursor frame.mode inner.options with
      | emit found =>
          simp only [hclass] at hchoose
          obtain rfl := Except.ok.inj hchoose
          obtain ⟨same, hsame, hresembles⟩ := exists_emit hsuits h htext hrest hframe.mode_eq hfirst
            (fun _ => hstarted) hclass hshort
          refine ⟨same, other :: upperBelow, [], hresembles, .cons hframe hbelow, ?_⟩
          cases hground : setting.ground <;>
            simp [Ground.adapt, Lexer.choose, hsame]
      | giveWay =>
          simp only [hclass] at hchoose
          cases hlower : Lexer.choose inner.cursor inner.options base below with
          | error fault => simp [hlower, Except.map] at hchoose
          | ok lowerChoice =>
              rw [hlower] at hchoose
              obtain rfl := Except.ok.inj hchoose
              obtain ⟨same, kept, events, hresembles, hkept, hother⟩ :=
                ih hothers (fun _ => hstarted) hlower hshort
              have hgive := classify_giveWay hsuits h htext hrest hframe.mode_eq hfirst
                (fun _ => hstarted) hclass
              refine ⟨same, kept, .gaveWay outer.cursor.offset other.mode.id :: events, hresembles,
                hkept, ?_⟩
              rw [List.cons_append, Lexer.choose, hgive]
              simp only [hother, Except.map]

end Setting.Embeds

end ElixirLexer
