import ElixirLexer.Counting
import ElixirLexer.Proofs.CodeRules
import ElixirLexer.Proofs.DepthCounters

/-!
# Full counters

A counter of nested delimiters or of braces has a largest value.  As long as no more openers wait
than it holds, a body reaches as far as `bodyReach` says (`Overflow.reach_eq`), and a mode comes to
the outcome that `classify` gives (`Overflow.outcome_eq`).  Beyond that the two ways to overflow
part: a counter that faults leaves no outcome (`Overflow.outcome_faults`), and one that starts over
ends the body somewhere in the text (`Overflow.exists_reach_wraps`).

Whether a mode counts too far can be seen from its counter and from the text ahead
(`Mode.Overflows`), without running a counter of a fixed width.  It does not happen to a session
that begins in plain code, unless its text is longer than a counter can count
(`Lexer.outcome_of_pull`).  Where in the text a body ends that has started over is not said.
-/

namespace ElixirLexer

/-! ## What a counter holds -/

/-- Along a stretch of the text that comes behind `depth` openers, no more openers wait than a
counter holds. -/
def Group.Countable (group : Group) (depth : Nat) (text : List Char) (length : Nat) : Prop :=
  ∀ i ≤ length, depth + group.openersIn (text.take i) < depthLimit + group.closersIn (text.take i)

instance (group : Group) (depth : Nat) (text : List Char) (length : Nat) :
    Decidable (group.Countable depth text length) :=
  inferInstanceAs (Decidable (∀ i ≤ length, _ < _))

/-- In front of a text a rule of the mode counts beyond what its counter holds. -/
def Mode.Overflows (rest : List Char) : Mode → Prop
  | .interpolation depth => depthLimit ≤ depth + 1 ∧ rest.head? = some '{'
  | .group body => ¬ body.Countable body.depth rest (bodyReach body body.depth rest).length
  | _ => False

theorem not_overflows_group {group : Group} {rest : List Char} :
    ¬ (Mode.group group).Overflows rest ↔
      group.Countable group.depth rest (bodyReach group group.depth rest).length :=
  not_not

namespace Group

variable {group : Group} {depth later length : Nat} {c d : Char} {text rest behind : List Char}

theorem Countable.depth_lt (h : group.Countable depth text length) : depth < depthLimit := by
  simpa using h 0 (Nat.zero_le _)

theorem countable_zero : group.Countable depth text 0 ↔ depth < depthLimit := by
  simp [Countable]

/-- The text behind the stretch does not matter. -/
theorem Countable.append (h : group.Countable depth text length) (tail : List Char)
    (hlength : length ≤ text.length) : group.Countable depth (text ++ tail) length := by
  intro i hi
  rw [List.take_append_of_le_length (Nat.le_trans hi hlength)]
  exact h i hi

/-- A backslash at the end of the text stands alone. -/
theorem countable_backslash : group.Countable depth ['\\'] 1 ↔ depth < depthLimit := by
  refine ⟨Countable.depth_lt, fun hlt i hi => ?_⟩
  rcases Nat.le_one_iff_eq_zero_or_eq_one.mp hi with rfl | rfl <;>
    simpa [openersIn, closersIn, bareCount, bare] using hlt

theorem countable_escape :
    group.Countable depth ('\\' :: d :: behind) (length + 2) ↔
      group.Countable depth behind length := by
  constructor
  · intro h i hi
    simpa [openersIn_escape, closersIn_escape] using h (i + 2) (Nat.add_le_add_right hi 2)
  · intro h i hi
    have hdepth := h.depth_lt
    match i with
    | 0 => simpa using hdepth
    | 1 => simpa [openersIn, closersIn, bareCount, bare] using hdepth
    | i + 2 =>
        simpa [openersIn_escape, closersIn_escape] using h i (Nat.le_of_add_le_add_right hi)

/-- Behind one more character the stretch goes on with the openers that wait then. -/
theorem countable_cons (h : c ≠ '\\')
    (hdepth : depth + (if group.nests ∧ c = group.opener then 1 else 0) =
      later + if c = group.closer then 1 else 0) :
    group.Countable depth (c :: rest) (length + 1) ↔
      depth < depthLimit ∧ group.Countable later rest length := by
  have hcount (i : Nat) : depth + group.openersIn (c :: rest.take i) <
      depthLimit + group.closersIn (c :: rest.take i) ↔
        later + group.openersIn (rest.take i) < depthLimit + group.closersIn (rest.take i) := by
    rw [closersIn_cons h, openersIn_cons h]
    omega
  constructor
  · intro hall
    refine ⟨hall.depth_lt, fun i hi => (hcount i).mp ?_⟩
    exact hall (i + 1) (Nat.succ_le_succ hi)
  · rintro ⟨hlt, hall⟩ i hi
    cases i with
    | zero => simpa using hlt
    | succ i => exact (hcount i).mpr (hall i (Nat.le_of_succ_le_succ hi))

end Group

/-! ## Bodies -/

namespace Overflow

section

variable {overflow : Overflow} {group : Group} {depth : Nat} {c : Char} {text rest : List Char}

/-! ### One equation for each head -/

/-- A body that ends where it begins. -/
theorem reach_ends (hc : c ≠ '\\')
    (h : (group.interpolating ∧ c = '#' ∧ rest.head? = some '{') ∨ c = group.closer ∧ depth = 0) :
    overflow.reach group depth (c :: rest) = .ok ⟨0, depth⟩ := by
  rw [reach.eq_def]
  simp only [if_neg hc]
  split
  · rfl
  · next hinterpolation =>
      obtain ⟨hcloser, hdepth⟩ := h.resolve_left hinterpolation
      rw [if_pos hcloser, if_pos hdepth]

theorem reach_closer (hc : c ≠ '\\')
    (hinterpolation : ¬ (group.interpolating ∧ c = '#' ∧ rest.head? = some '{'))
    (hcloser : c = group.closer) (hdepth : depth ≠ 0) :
    overflow.reach group depth (c :: rest) =
      (overflow.reach group (depth - 1) rest).map (Reach.after 1) := by
  rw [reach.eq_def]
  simp only [if_neg hc, if_neg hinterpolation, if_pos hcloser, if_neg hdepth]

/-- Only in front of an opener the counter counts on. -/
theorem reach_opener (hc : c ≠ '\\')
    (hinterpolation : ¬ (group.interpolating ∧ c = '#' ∧ rest.head? = some '{'))
    (hcloser : c ≠ group.closer) (hopener : group.nests ∧ c = group.opener) :
    overflow.reach group depth (c :: rest) =
      (overflow.next depthLimit depth).bind fun deeper =>
        (overflow.reach group deeper rest).map (Reach.after 1) := by
  rw [reach.eq_def]
  simp only [if_neg hc, if_neg hinterpolation, if_neg hcloser, if_pos hopener]
  rfl

theorem reach_plain (hc : c ≠ '\\')
    (hinterpolation : ¬ (group.interpolating ∧ c = '#' ∧ rest.head? = some '{'))
    (hcloser : c ≠ group.closer) (hopener : ¬ (group.nests ∧ c = group.opener)) :
    overflow.reach group depth (c :: rest) =
      (overflow.reach group depth rest).map (Reach.after 1) := by
  rw [reach.eq_def]
  simp only [if_neg hc, if_neg hinterpolation, if_neg hcloser, if_neg hopener]

end

section

variable {group : Group} {depth : Nat} {text : List Char}

/-! ### Within the counter and beyond it -/

/-- While the counter holds what waits, a body reaches as far as without a limit. -/
theorem reach_eq (overflow : Overflow)
    (h : group.Countable depth text (bodyReach group depth text).length) :
    overflow.reach group depth text = .ok (bodyReach group depth text) := by
  fun_induction bodyReach group depth text with
  | case1 depth => rfl
  | case2 depth => rfl
  | case3 depth d behind ih =>
      rw [reach, ih (Group.countable_escape.mp h)]
      rfl
  | case4 depth c rest hc hinterpolation => exact reach_ends hc (.inl hinterpolation)
  | case5 rest hc hinterpolation => exact reach_ends hc (.inr ⟨rfl, rfl⟩)
  | case6 depth rest hdepth hc hinterpolation ih =>
      have hlater := ((Group.countable_cons hc (Group.waiting_of_closer rfl hdepth)).mp h).2
      rw [reach_closer hc hinterpolation rfl hdepth, ih hlater]
      rfl
  | case7 depth c rest hc hinterpolation hcloser hopener ih =>
      have hlater := ((Group.countable_cons hc (Group.waiting_of_opener hcloser hopener)).mp h).2
      rw [reach_opener hc hinterpolation hcloser hopener, next_of_lt overflow hlater.depth_lt,
        Except.bind, ih hlater]
      rfl
  | case8 depth c rest hc hinterpolation hcloser hopener ih =>
      have hlater := ((Group.countable_cons hc (Group.waiting_of_plain hcloser hopener)).mp h).2
      rw [reach_plain hc hinterpolation hcloser hopener, ih hlater]
      rfl

/-- A counter that faults does so if somewhere in the body more waits than it holds. -/
theorem reach_faults (hdepth : depth < depthLimit)
    (h : ¬ group.Countable depth text (bodyReach group depth text).length) :
    faults.reach group depth text = .error .overflow := by
  fun_induction bodyReach group depth text with
  | case1 depth => exact absurd (Group.countable_zero.mpr hdepth) h
  | case2 depth => exact absurd (Group.countable_backslash.mpr hdepth) h
  | case3 depth d behind ih =>
      rw [reach, ih hdepth fun hlater => h (Group.countable_escape.mpr hlater)]
      rfl
  | case4 depth c rest hc hinterpolation => exact absurd (Group.countable_zero.mpr hdepth) h
  | case5 rest hc hinterpolation => exact absurd (Group.countable_zero.mpr hdepth) h
  | case6 depth rest hne hc hinterpolation ih =>
      have hlater : ¬ group.Countable (depth - 1) rest _ := fun hlater =>
        h ((Group.countable_cons hc (Group.waiting_of_closer rfl hne)).mpr ⟨hdepth, hlater⟩)
      rw [reach_closer hc hinterpolation rfl hne, ih (by omega) hlater]
      rfl
  | case7 depth c rest hc hinterpolation hcloser hopener ih =>
      have hlater : ¬ group.Countable (depth + 1) rest _ := fun hlater =>
        h ((Group.countable_cons hc (Group.waiting_of_opener hcloser hopener)).mpr
          ⟨hdepth, hlater⟩)
      rw [reach_opener hc hinterpolation hcloser hopener]
      -- Either this opener is one too many, or there is one behind it.
      by_cases hnext : depth + 1 < depthLimit
      · rw [next_of_lt faults hnext, Except.bind, ih hnext hlater]
        rfl
      · rw [next_faults_of_le (Nat.not_lt.mp hnext)]
        rfl
  | case8 depth c rest hc hinterpolation hcloser hopener ih =>
      have hlater : ¬ group.Countable depth rest _ := fun hlater =>
        h ((Group.countable_cons hc (Group.waiting_of_plain hcloser hopener)).mpr
          ⟨hdepth, hlater⟩)
      rw [reach_plain hc hinterpolation hcloser hopener, ih hdepth hlater]
      rfl

/-- A counter that starts over ends a body somewhere in the text, and there is no body exactly if
there is none without a limit. -/
theorem exists_reach_wraps (group : Group) (depth : Nat) (text : List Char) :
    ∃ reach, wraps.reach group depth text = .ok reach ∧ reach.length ≤ text.length ∧
      (reach.length = 0 ↔ (bodyReach group depth text).length = 0) := by
  -- Along the recursion of `reach`: its depths are not those of `bodyReach`.
  fun_induction Overflow.reach wraps group depth text with
  | case1 depth => exact ⟨_, rfl, Nat.le_refl _, Iff.rfl⟩
  | case2 depth => exact ⟨_, rfl, Nat.le_refl _, Iff.rfl⟩
  | case3 depth d behind ih =>
      obtain ⟨reach, hreach, hle, -⟩ := ih
      refine ⟨reach.after 2, by rw [hreach]; rfl, Nat.add_le_add_right hle 2, ?_⟩
      simp [bodyReach]
  | case4 depth c rest hc hinterpolation =>
      refine ⟨_, rfl, Nat.zero_le _, iff_of_true rfl ?_⟩
      rw [bodyReach.eq_def]
      simp only [if_neg hc, if_pos hinterpolation]
  | case5 rest hc hinterpolation =>
      refine ⟨_, rfl, Nat.zero_le _, iff_of_true rfl ?_⟩
      rw [bodyReach.eq_def]
      simp only [if_neg hc, if_neg hinterpolation, if_true]
  | case6 depth rest hdepth hc hinterpolation ih =>
      obtain ⟨reach, hreach, hle, -⟩ := ih
      have hpos := length_bodyReach_pos hinterpolation fun h => hdepth h.1
      exact ⟨reach.after 1, by rw [hreach]; rfl, Nat.succ_le_succ hle,
        iff_of_false (Nat.succ_ne_zero _) (Nat.ne_of_gt hpos)⟩
  | case7 depth c rest hc hinterpolation hcloser hopener ih =>
      obtain ⟨deeper, hdeeper⟩ := exists_next_wraps depthLimit depth
      obtain ⟨reach, hreach, hle, -⟩ := ih deeper
      have hpos : 0 < (bodyReach group depth (c :: rest)).length :=
        length_bodyReach_pos hinterpolation fun h => hcloser h.2
      refine ⟨reach.after 1, ?_, Nat.succ_le_succ hle,
        iff_of_false (Nat.succ_ne_zero _) (Nat.ne_of_gt hpos)⟩
      rw [hdeeper]
      show (wraps.reach group deeper rest).map (Reach.after 1) = _
      rw [hreach]
      rfl
  | case8 depth c rest hc hinterpolation hcloser hopener ih =>
      obtain ⟨reach, hreach, hle, -⟩ := ih
      have hpos : 0 < (bodyReach group depth (c :: rest)).length :=
        length_bodyReach_pos hinterpolation fun h => hcloser h.2
      exact ⟨reach.after 1, by rw [hreach]; rfl, Nat.succ_le_succ hle,
        iff_of_false (Nat.succ_ne_zero _) (Nat.ne_of_gt hpos)⟩

end

/-! ## Answers -/

section

variable {overflow : Overflow} {cursor : Cursor} {mode : Mode} {options : Options} {group : Group}
  {depth : Nat} {tail : List Char}

/-- The body of a group, once it is known how far it reaches. -/
theorem body_eq {reach : Reach} (h : overflow.reach group group.depth cursor.rest = .ok reach) :
    overflow.body ⟨cursor, .group group, options⟩ =
      .ok (if reach.length = 0 then none
        else some (Match.moving group.literal.bodyKind reach.length
          (group.deepened reach.depth))) := by
  have hbind : overflow.body ⟨cursor, .group group, options⟩ =
      (overflow.reach group group.depth cursor.rest).bind fun reach => _ := rfl
  rw [hbind, h, Except.bind]
  unfold Group.deepened
  split
  · rfl
  · split <;> rfl

theorem body_faults (hdepth : group.depth < depthLimit)
    (h : (Mode.group group).Overflows cursor.rest) :
    faults.body ⟨cursor, .group group, options⟩ = .error .overflow := by
  have hbind : faults.body ⟨cursor, .group group, options⟩ =
      (faults.reach group group.depth cursor.rest).bind fun reach => _ := rfl
  rw [hbind, reach_faults hdepth h]
  rfl

/-- The counter of interpolated code counts on in front of an opening brace. -/
theorem brace_open (hrest : cursor.rest = '{' :: tail) :
    overflow.brace ⟨cursor, .interpolation depth, options⟩ =
      (overflow.next depthLimit depth).map fun deeper =>
        some (Match.moving .openBrace 1 (.replace (.interpolation deeper))) := by
  simp only [brace, Scan.rest, hrest]
  rfl

/-- Where its counter holds, a rule answers as without a limit. -/
theorem answer_eq (h : ¬ mode.Overflows cursor.rest) (rule : Rule) :
    overflow.answer ⟨cursor, mode, options⟩ rule = .ok (rule.answer ⟨cursor, mode, options⟩) := by
  cases rule with
  | groupBody =>
      cases mode with
      | group group =>
          have hreach := reach_eq overflow (not_overflows_group.mp h)
          exact (body_eq hreach).trans (congrArg Except.ok groupBody_eq.symm)
      | _ => rfl
  | interpolationBrace =>
      cases mode with
      | interpolation depth =>
          by_cases hhead : cursor.rest.head? = some '{'
          · obtain ⟨tail, hrest⟩ := List.head?_eq_some_iff.mp hhead
            have hnext : depth + 1 < depthLimit := Nat.lt_of_not_le fun hle => h ⟨hle, hhead⟩
            refine (brace_open hrest).trans ?_
            rw [next_of_lt overflow hnext]
            simp [Rule.answer, Scan.interpolationBrace, Scan.rest, hrest, Except.map]
          · exact if_neg hhead
      | _ => rfl
  | _ => rfl

/-! ## Outcomes -/

/-- What is selected if every rule has an answer. -/
theorem select_eq {scan : Scan} {answers : Rule → Option Match} {rules : List Rule}
    (h : ∀ rule ∈ rules, overflow.answer scan rule = .ok (answers rule)) :
    overflow.select scan rules = .ok (longest answers rules) := by
  have hanswers : rules.mapM (overflow.answer scan) = .ok (rules.map answers) := by
    induction rules with
    | nil => rfl
    | cons rule rules ih =>
        obtain ⟨hfirst, hothers⟩ := List.forall_mem_cons.mp h
        rw [List.mapM_cons, hfirst, ih hothers]
        rfl
  rw [select, hanswers]
  show Except.ok (longest id (rules.map answers)) = _
  simp [longest, List.filterMap_map]

/-- A fault of one rule is the fault of all. -/
theorem select_error {scan : Scan} {fault : Fault} {rule : Rule} {behind : List Rule}
    (answers : Rule → Option Match) (before : List Rule)
    (hbefore : ∀ earlier ∈ before, overflow.answer scan earlier = .ok (answers earlier))
    (h : overflow.answer scan rule = .error fault) :
    overflow.select scan (before ++ rule :: behind) = .error fault := by
  have hanswers : (before ++ rule :: behind).mapM (overflow.answer scan) = .error fault := by
    induction before with
    | nil =>
        rw [List.nil_append, List.mapM_cons, h]
        rfl
    | cons earlier before ih =>
        obtain ⟨hfirst, hothers⟩ := List.forall_mem_cons.mp hbefore
        rw [List.cons_append, List.mapM_cons, hfirst, ih hothers]
        rfl
  rw [select, hanswers]
  rfl

/-- **Where its counter holds, a mode is classified as without a limit.** -/
theorem outcome_eq (h : ¬ mode.Overflows cursor.rest) :
    overflow.outcome cursor mode options = .ok (classify cursor mode options) := by
  have hselect : overflow.select ⟨cursor, mode, options⟩ (Rule.table mode.id) = .ok _ :=
    select_eq fun rule _ => answer_eq h rule
  rw [outcome, hselect]
  rfl

/-- Where it does not, a counter that faults leaves no outcome. -/
theorem outcome_faults (hcounter : mode.counter < depthLimit) (h : mode.Overflows cursor.rest) :
    faults.outcome cursor mode options = .error .overflow := by
  have hselect : faults.select ⟨cursor, mode, options⟩ (Rule.table mode.id) =
      .error .overflow := by
    cases mode with
    | interpolation depth =>
        obtain ⟨hfull, hhead⟩ := h
        obtain ⟨tail, hrest⟩ := List.head?_eq_some_iff.mp hhead
        have hbrace : faults.answer ⟨cursor, .interpolation depth, options⟩ .interpolationBrace =
            .error .overflow := by
          refine (brace_open hrest).trans ?_
          rw [next_faults_of_le hfull]
          rfl
        exact select_error (fun _ => none) [] (by simp) hbrace
    | group group =>
        have hbody : faults.answer ⟨cursor, .group group, options⟩ .groupBody =
            .error .overflow := body_faults hcounter h
        -- The two rules that are asked before the body do not count.
        refine select_error (fun rule => rule.answer ⟨cursor, .group group, options⟩)
          [.interpolationStart, .groupTerminator] ?_ hbody
        simp [answer]
    | _ => exact absurd h id
  rw [outcome, hselect]
  rfl

end

end Overflow

/-! ## Sessions -/

theorem Mode.not_overflows_of_countsBelow {mode : Mode} {rest : List Char}
    (h : mode.CountsBelow depthLimit rest) : ¬ mode.Overflows rest := by
  cases mode with
  | interpolation depth =>
      rintro ⟨hfull, hhead⟩
      have hrest : rest ≠ [] := by
        rintro rfl
        simp at hhead
      exact Nat.not_lt.mpr hfull (h.2 hrest)
  | group body =>
      refine not_overflows_group.mpr fun i hi => ?_
      obtain ⟨hle, hlt⟩ := h i hi
      omega
  | _ => exact fun h => h

/-- **A session needs no limit.**  Behind any number of steps from plain code, in a text that is
shorter than a counter can count, every frame comes to the outcome that it has without a limit,
whichever way counters overflow. -/
theorem Lexer.outcome_of_pull {text : List Char} {options : Options} {count : Nat} {run : Run}
    (hshort : text.length < depthLimit) (hpull : (Lexer.ofText text options).pull count = .ok run)
    (overflow : Overflow) : ∀ frame ∈ run.lexer.stack.frames,
      overflow.outcome run.lexer.cursor frame.mode run.lexer.options =
        .ok (classify run.lexer.cursor frame.mode run.lexer.options) := by
  have htallied := (Lexer.Tallied.ofText text options).pull hpull
  obtain ⟨htext, -, -⟩ := htallied.shaped
  have hlength := Cursor.offset_add_remaining run.lexer.cursor
  rw [htext] at hlength
  have hbelow (frame : Frame) (hbound : frame.mode.counter + frame.openedAt ≤ run.lexer.offset) :
      ¬ frame.mode.Overflows run.lexer.cursor.rest := by
    refine Mode.not_overflows_of_countsBelow (Mode.countsBelow_of_lt ?_)
    simp only [Lexer.offset, Cursor.remaining] at hbound hlength
    omega
  intro frame hmem
  rcases List.mem_cons.mp hmem with rfl | hmem
  · exact Overflow.outcome_eq id
  · have htally := htallied.frames frame (List.mem_reverse.mp hmem)
    exact Overflow.outcome_eq (hbelow frame htally.bound)

end ElixirLexer
