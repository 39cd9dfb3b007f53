import ElixirLexer.Proofs.Escapes

/-!
# Bodies between single delimiters

The body of a string, a character list or a sigil is read by one loop that keeps count of the
openers that wait.  Here the places at which a body can end are described without the loop, by the
bare characters in front of them: the body ends at the first such place, and what it leaves waiting
is what these characters open and do not close (`Group.bodyReach_endsFirst`).  The group may hold
any delimiters, and may already have openers waiting.

A text that closes what it opens and nothing else, that holds no start of an interpolation and does
not escape the closer is ended by the closer behind it (`Group.Holds.bodyReach_eq`).
-/

namespace ElixirLexer

/-! ## Where a body can end -/

namespace Group

/-- Openers of a text that can wait for their closers: the bare ones, if delimiters nest. -/
def openersIn (group : Group) (text : List Char) : Nat :=
  if group.nests then bareCount group.opener text else 0

/-- The bare closers of a text. -/
def closersIn (group : Group) (text : List Char) : Nat :=
  bareCount group.closer text

/-- Whether a body that begins with `depth` openers waiting can end at a place of the text: at the
end of the text, in front of an interpolation, or in front of a closer that no opener waits for. -/
def EndsAt (group : Group) (depth : Nat) (text : List Char) (i : Nat) : Prop :=
  i = text.length ∨
    (group.interpolating ∧ (bare false text)[i]? = some (some '#') ∧ text[i + 1]? = some '{') ∨
    ((bare false text)[i]? = some (some group.closer) ∧
      group.closersIn (text.take i) = depth + group.openersIn (text.take i))

/-- A body ends at the first place where it can, and leaves as many openers waiting as were waiting
in front of it, and those that it opens, less those that it closes. -/
structure EndsFirst (group : Group) (depth : Nat) (text : List Char) (reach : Reach) : Prop where
  ends : group.EndsAt depth text reach.length
  first : ∀ i < reach.length, ¬ group.EndsAt depth text i
  depth_eq : reach.depth + group.closersIn (text.take reach.length) =
    depth + group.openersIn (text.take reach.length)

section

variable {group : Group} {depth later : Nat} {c d : Char} {rest behind : List Char}
  {reach : Reach}

@[simp] theorem openersIn_nil : group.openersIn [] = 0 := by
  simp [openersIn]

@[simp] theorem closersIn_nil : group.closersIn [] = 0 := rfl

theorem openersIn_escape : group.openersIn ('\\' :: d :: behind) = group.openersIn behind := by
  simp [openersIn, bareCount_escape]

theorem closersIn_escape : group.closersIn ('\\' :: d :: behind) = group.closersIn behind :=
  bareCount_escape d behind

theorem openersIn_cons (h : c ≠ '\\') : group.openersIn (c :: rest) =
    group.openersIn rest + if group.nests ∧ c = group.opener then 1 else 0 := by
  unfold openersIn
  cases group.nests with
  | false => simp
  | true => simp [bareCount_cons h]

theorem closersIn_cons (h : c ≠ '\\') : group.closersIn (c :: rest) =
    group.closersIn rest + if c = group.closer then 1 else 0 :=
  bareCount_cons h rest

theorem endsAt_escape (i : Nat) :
    group.EndsAt depth ('\\' :: d :: behind) (i + 2) ↔ group.EndsAt depth behind i := by
  simp [EndsAt, bare_escape, openersIn_escape, closersIn_escape]

/-- A body does not end within an escape. -/
theorem not_endsAt_escape {i : Nat} (h : i < 2) :
    ¬ group.EndsAt depth ('\\' :: d :: behind) i := by
  rcases Nat.le_one_iff_eq_zero_or_eq_one.mp (Nat.le_of_lt_succ h) with rfl | rfl <;>
    simp [EndsAt, bare_escape]

theorem endsAt_zero (h : c ≠ '\\') : group.EndsAt depth (c :: rest) 0 ↔
    (group.interpolating ∧ c = '#' ∧ rest.head? = some '{') ∨ c = group.closer ∧ depth = 0 := by
  have hzero : (0 : Nat) = depth ↔ depth = 0 := eq_comm
  simp [EndsAt, bare_cons h, List.head?_eq_getElem?, hzero]

/-- Behind one more character the body goes on with the openers that wait then. -/
theorem endsAt_succ (h : c ≠ '\\')
    (hdepth : depth + (if group.nests ∧ c = group.opener then 1 else 0) =
      later + if c = group.closer then 1 else 0) (i : Nat) :
    group.EndsAt depth (c :: rest) (i + 1) ↔ group.EndsAt later rest i := by
  have hcount : group.closersIn (c :: rest.take i) = depth + group.openersIn (c :: rest.take i) ↔
      group.closersIn (rest.take i) = later + group.openersIn (rest.take i) := by
    rw [closersIn_cons h, openersIn_cons h]
    omega
  simp [EndsAt, bare_cons h, hcount]

/-! ### What waits behind one more character -/

/-- A closer answers one of the openers that wait. -/
theorem waiting_of_closer (hcloser : c = group.closer) (hdepth : depth ≠ 0) :
    depth + (if group.nests ∧ c = group.opener then 1 else 0) =
      depth - 1 + if c = group.closer then 1 else 0 := by
  -- Where delimiters nest the closer is no opener.
  have hopener : ¬ (group.nests ∧ c = group.opener) := by
    rintro ⟨hnests, heq⟩
    simp [nests, ← heq, hcloser] at hnests
  rw [if_neg hopener, if_pos hcloser]
  omega

theorem waiting_of_opener (hcloser : c ≠ group.closer) (hopener : group.nests ∧ c = group.opener) :
    depth + (if group.nests ∧ c = group.opener then 1 else 0) =
      depth + 1 + if c = group.closer then 1 else 0 := by
  rw [if_pos hopener, if_neg hcloser]

theorem waiting_of_plain (hcloser : c ≠ group.closer)
    (hopener : ¬ (group.nests ∧ c = group.opener)) :
    depth + (if group.nests ∧ c = group.opener then 1 else 0) =
      depth + if c = group.closer then 1 else 0 := by
  rw [if_neg hopener, if_neg hcloser]

/-! ### Where it does end -/

theorem EndsFirst.escape (h : group.EndsFirst depth behind reach) :
    group.EndsFirst depth ('\\' :: d :: behind) (reach.after 2) where
  ends := (endsAt_escape _).mpr h.ends
  first := by
    intro i hi
    by_cases hwithin : i < 2
    · exact not_endsAt_escape hwithin
    · obtain ⟨j, rfl⟩ := Nat.exists_eq_add_of_le' (Nat.le_of_not_lt hwithin)
      rw [endsAt_escape]
      exact h.first j (Nat.lt_of_add_lt_add_right hi)
  depth_eq := by
    simpa [openersIn_escape, closersIn_escape] using h.depth_eq

theorem EndsFirst.cons (h : group.EndsFirst later rest reach) (hc : c ≠ '\\')
    (hopen : ¬ group.EndsAt depth (c :: rest) 0)
    (hdepth : depth + (if group.nests ∧ c = group.opener then 1 else 0) =
      later + if c = group.closer then 1 else 0) :
    group.EndsFirst depth (c :: rest) (reach.after 1) where
  ends := (endsAt_succ hc hdepth _).mpr h.ends
  first := by
    intro i hi
    cases i with
    | zero => exact hopen
    | succ i =>
        rw [endsAt_succ hc hdepth]
        exact h.first i (Nat.lt_of_add_lt_add_right hi)
  depth_eq := by
    have hlater := h.depth_eq
    simp only [Reach.length_after, Reach.depth_after, List.take_succ_cons, closersIn_cons hc,
      openersIn_cons hc]
    omega

/-- A body that ends where it begins. -/
theorem EndsFirst.zero {text : List Char} (h : group.EndsAt depth text 0) :
    group.EndsFirst depth text ⟨0, depth⟩ where
  ends := h
  first := by simp
  depth_eq := by simp

/-- There is only one such end. -/
theorem EndsFirst.eq {text : List Char} {other : Reach} (h : group.EndsFirst depth text reach)
    (hother : group.EndsFirst depth text other) : reach = other := by
  obtain ⟨length, left⟩ := reach
  obtain ⟨otherLength, otherLeft⟩ := other
  obtain rfl : length = otherLength :=
    Nat.le_antisymm (Nat.le_of_not_lt fun hlt => h.first _ hlt hother.ends)
      (Nat.le_of_not_lt fun hlt => hother.first _ hlt h.ends)
  obtain rfl : left = otherLeft :=
    Nat.add_right_cancel (h.depth_eq.trans hother.depth_eq.symm)
  rfl

/-- **A body ends where the grammar of delimiters says.** -/
theorem bodyReach_endsFirst (group : Group) (depth : Nat) (text : List Char) :
    group.EndsFirst depth text (bodyReach group depth text) := by
  fun_induction bodyReach group depth text with
  | case1 depth => exact .zero (.inl rfl)
  | case2 depth =>
      -- The backslash at the end of the text stands alone.
      exact {
        ends := .inl rfl
        first := by simp [EndsAt, bare]
        depth_eq := by simp [closersIn, openersIn, bareCount, bare] }
  | case3 depth d behind ih => exact ih.escape
  | case4 depth c rest hc hinterpolation =>
      exact .zero ((endsAt_zero hc).mpr (.inl hinterpolation))
  | case5 rest hc hinterpolation =>
      exact .zero ((endsAt_zero hc).mpr (.inr ⟨rfl, rfl⟩))
  | case6 depth rest hdepth hc hinterpolation ih =>
      refine ih.cons hc ?_ (waiting_of_closer rfl hdepth)
      rw [endsAt_zero hc]
      simp [hinterpolation, hdepth]
  | case7 depth c rest hc hinterpolation hcloser hopener ih =>
      refine ih.cons hc ?_ (waiting_of_opener hcloser hopener)
      rw [endsAt_zero hc]
      simp [hinterpolation, hcloser]
  | case8 depth c rest hc hinterpolation hcloser hopener ih =>
      refine ih.cons hc ?_ (waiting_of_plain hcloser hopener)
      rw [endsAt_zero hc]
      simp [hinterpolation, hcloser]

/-! ### Counting along the body -/

theorem openersIn_le_length (group : Group) (text : List Char) :
    group.openersIn text ≤ text.length := by
  unfold openersIn
  split
  · exact bareCount_le_length _ _
  · exact Nat.zero_le _

/-- Within a body no closer is without an opener. -/
theorem EndsFirst.closersIn_le {text : List Char} (h : group.EndsFirst depth text reach) {i : Nat}
    (hi : i ≤ reach.length) :
    group.closersIn (text.take i) ≤ depth + group.openersIn (text.take i) := by
  induction i with
  | zero => simp
  | succ i ih =>
      have hbefore := ih (Nat.le_of_succ_le hi)
      have hopen := h.first i hi
      have hopeners : group.openersIn (text.take i) ≤ group.openersIn (text.take (i + 1)) := by
        unfold openersIn bareCount
        split
        · rw [bare_take, bare_take]
          exact (List.take_sublist_take_left (Nat.le_succ i)).count_le _
        · exact Nat.le_refl _
      have hclosers : group.closersIn (text.take (i + 1)) = group.closersIn (text.take i) +
          if (bare false text)[i]? = some (some group.closer) then 1 else 0 := by
        unfold closersIn bareCount
        rw [bare_take, bare_take, List.take_add_one, List.count_append]
        cases (bare false text)[i]? with
        | none => simp
        | some c => simp [List.count_singleton]
      rw [hclosers]
      split
      · next hcloser =>
          have hne : group.closersIn (text.take i) ≠ depth + group.openersIn (text.take i) :=
            fun heq => hopen (.inr (.inr ⟨hcloser, heq⟩))
          omega
      · omega

end

end Group

/-! ## Texts that are a body -/

/-- A text can stand between the delimiters of a group in one piece: it closes only what it opens,
and all of it, no interpolation begins in it if one could, and no backslash is left at its end. -/
structure Group.Holds (group : Group) (body : List Char) : Prop where
  opened : ∀ i, (bare false body)[i]? = some (some group.closer) →
    group.closersIn (body.take i) ≠ group.openersIn (body.take i)
  closed : group.closersIn body = group.openersIn body
  unescaping : endsEscaping false body = false
  uninterrupted : group.interpolating → ∀ i, (bare false body)[i]? = some (some '#') →
    body[i + 1]? ≠ some '{'

/-- Only the places of the text itself need to be looked at. -/
theorem Group.holds_iff {group : Group} {body : List Char} : group.Holds body ↔
    (∀ i < body.length, (bare false body)[i]? = some (some group.closer) →
      group.closersIn (body.take i) ≠ group.openersIn (body.take i)) ∧
    group.closersIn body = group.openersIn body ∧ endsEscaping false body = false ∧
    (group.interpolating → ∀ i < body.length, (bare false body)[i]? = some (some '#') →
      body[i + 1]? ≠ some '{') := by
  have hlt {i : Nat} {c : Char} (h : (bare false body)[i]? = some (some c)) : i < body.length := by
    simpa using (List.getElem?_eq_some_iff.mp h).1
  constructor
  · rintro ⟨hopened, hclosed, hunescaping, huninterrupted⟩
    exact ⟨fun i _ => hopened i, hclosed, hunescaping, fun h i _ => huninterrupted h i⟩
  · rintro ⟨hopened, hclosed, hunescaping, huninterrupted⟩
    exact ⟨fun i h => hopened i (hlt h) h, hclosed, hunescaping,
      fun hinterpolating i h => huninterrupted hinterpolating i (hlt h) h⟩

instance (group : Group) (body : List Char) : Decidable (group.Holds body) :=
  decidable_of_iff _ Group.holds_iff.symm

namespace Group.Holds

variable {group : Group} {body : List Char}

theorem nil : group.Holds [] where
  opened := by simp
  closed := by simp
  unescaping := rfl
  uninterrupted := by simp

/-- Such a text ends nowhere before its closer. -/
theorem not_endsAt (h : group.Holds body) (hbrace : group.closer ≠ '{') (tail : List Char) {i : Nat}
    (hi : i < body.length) : ¬ group.EndsAt 0 (body ++ group.closer :: tail) i := by
  have hbare : (bare false (body ++ group.closer :: tail))[i]? = (bare false body)[i]? := by
    rw [bare_append, List.getElem?_append_left (by simpa using hi)]
  rintro (hlength | ⟨hinterpolating, hhash, hopen⟩ | ⟨hcloser, hcount⟩)
  · simp only [List.length_append, List.length_cons] at hlength
    omega
  · rw [hbare] at hhash
    rcases Nat.lt_or_eq_of_le (Nat.succ_le_of_lt hi) with hnext | hlast
    · rw [List.getElem?_append_left hnext] at hopen
      exact h.uninterrupted hinterpolating i hhash hopen
    · -- Behind the last character of the body the closer follows, and it is no brace.
      rw [show i + 1 = body.length from hlast, List.getElem?_append_right (Nat.le_refl _)] at hopen
      simp [hbrace] at hopen
  · rw [hbare] at hcloser
    rw [List.take_append_of_le_length (Nat.le_of_lt hi), Nat.zero_add] at hcount
    exact h.opened i hcloser hcount

/-- The closer behind such a text ends it. -/
theorem bodyReach_eq (h : group.Holds body) (hescape : group.closer ≠ '\\')
    (hbrace : group.closer ≠ '{') (tail : List Char) :
    bodyReach group 0 (body ++ group.closer :: tail) = ⟨body.length, 0⟩ := by
  refine (bodyReach_endsFirst group 0 (body ++ group.closer :: tail)).eq ?_
  have hclosed : group.closersIn ((body ++ group.closer :: tail).take body.length) =
      group.openersIn ((body ++ group.closer :: tail).take body.length) := by
    rw [List.take_left, h.closed]
  exact {
    ends := by
      refine .inr (.inr ⟨?_, by rw [hclosed, Nat.zero_add]⟩)
      rw [bare_append, h.unescaping, bare_cons hescape, List.getElem?_append_right (by simp)]
      simp
    first := fun i hi => h.not_endsAt hbrace tail hi
    depth_eq := congrArg (0 + ·) hclosed }

end Group.Holds

end ElixirLexer
