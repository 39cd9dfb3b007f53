import ElixirLexer.Classify

/-!
# How a match is selected

The longest answer is found by a fold with an accumulator.  Here the fold is read from the right:
the answer of the first rule stands against the longest answer of the others, and gives way only to
one that reaches further.  So what is selected is the first of the longest answers
(`longest_eq_some_iff`), and a list of rules may be cut in two and its parts be tried on their own
(`longest_append`); `longest_maximal_munch` says both.  Every later argument uses two parts of this:
a selected match is the answer of a rule of the table, and no answer of the table reaches further.

Nothing is asked of the rules, which may be any functions and stand in the list more than once.  An
answer competes by its extent, so a short token may win by what has to follow it.
-/

namespace ElixirLexer

/-- The earlier of two answers, unless the later one reaches further. -/
def Match.prefer (earlier later : Option Match) : Option Match :=
  match later with
  | none => earlier
  | some found => Match.better earlier found

@[simp] theorem Match.prefer_none (earlier : Option Match) : Match.prefer earlier none = earlier :=
  rfl

@[simp] theorem Match.none_prefer (later : Option Match) : Match.prefer none later = later := by
  cases later <;> rfl

theorem Match.some_prefer_some (earlier later : Match) :
    Match.prefer (some earlier) (some later) =
      if later.extent ≤ earlier.extent then some earlier else some later := rfl

@[simp] theorem Match.prefer_eq_none_iff {earlier later : Option Match} :
    Match.prefer earlier later = none ↔ earlier = none ∧ later = none := by
  cases later with
  | none => simp
  | some after =>
      cases earlier with
      | none => simp
      | some before =>
          rw [Match.some_prefer_some]
          split <;> simp

/-- A preferred match is one of the two. -/
theorem Match.eq_or_eq_of_prefer {earlier later : Option Match} {found : Match}
    (h : Match.prefer earlier later = some found) : earlier = some found ∨ later = some found := by
  cases later with
  | none => exact .inl h
  | some after =>
      cases earlier with
      | none => exact .inr h
      | some before =>
          rw [Match.some_prefer_some] at h
          split at h
          · exact .inl h
          · exact .inr h

/-- An answer gives way only to one that reaches further. -/
theorem Match.eq_or_extent_lt_of_prefer {first found : Match} {later : Option Match}
    (h : Match.prefer (some first) later = some found) :
    found = first ∨ first.extent < found.extent := by
  cases later with
  | none => exact .inl (Option.some.inj h).symm
  | some after =>
      rw [Match.some_prefer_some] at h
      split at h
      · exact .inl (Option.some.inj h).symm
      · next hlt =>
          obtain rfl := Option.some.inj h
          exact .inr (by omega)

/-- A preferred match reaches at least as far as the later of the two. -/
theorem Match.extent_le_of_prefer {earlier : Option Match} {later found : Match}
    (h : Match.prefer earlier (some later) = some found) : later.extent ≤ found.extent := by
  cases earlier with
  | none =>
      obtain rfl := Option.some.inj h
      exact Nat.le_refl _
  | some before =>
      rw [Match.some_prefer_some] at h
      split at h <;> obtain rfl := Option.some.inj h <;> omega

/-- Against an answer that reaches no further the earlier one stands. -/
theorem Match.prefer_eq_earlier {found : Match} {later : Option Match}
    (h : ∀ after ∈ later, after.extent ≤ found.extent) :
    Match.prefer (some found) later = some found := by
  cases later with
  | none => rfl
  | some after => rw [Match.some_prefer_some, if_pos (h after rfl)]

/-- An answer that reaches further than the earlier one wins. -/
theorem Match.prefer_eq_later {earlier : Option Match} {found : Match}
    (h : ∀ before ∈ earlier, before.extent < found.extent) :
    Match.prefer earlier (some found) = some found := by
  cases earlier with
  | none => rfl
  | some before => rw [Match.some_prefer_some, if_neg (Nat.not_le.mpr (h before rfl))]

/-- The order in which three answers are compared does not matter. -/
theorem Match.prefer_assoc (first second third : Option Match) :
    Match.prefer (Match.prefer first second) third =
      Match.prefer first (Match.prefer second third) := by
  cases first with
  | none => simp
  | some a =>
      cases second with
      | none => simp
      | some b =>
          cases third with
          | none => simp
          | some c =>
              simp only [Match.some_prefer_some]
              split <;> split <;> simp only [Match.some_prefer_some] <;> split <;> grind

/-- An accumulator of the fold is one more answer in front. -/
theorem Match.foldl_better (best : Option Match) (answers : List Match) :
    answers.foldl Match.better best = Match.prefer best (answers.foldl Match.better none) := by
  induction answers generalizing best with
  | nil => rfl
  | cons found answers ih =>
      have hfirst : Match.better best found = Match.prefer best (some found) := rfl
      have hnone : Match.better none found = some found := rfl
      rw [List.foldl_cons, List.foldl_cons, ih, hfirst, Match.prefer_assoc, hnone,
        ih (some found)]

section

variable {ρ : Type} {answer : ρ → Option Match}

@[simp] theorem longest_nil : longest answer [] = none := rfl

theorem longest_cons (rule : ρ) (rules : List ρ) :
    longest answer (rule :: rules) = Match.prefer (answer rule) (longest answer rules) := by
  unfold longest
  cases h : answer rule with
  | none => simp [h]
  | some found =>
      rw [List.filterMap_cons_some h, List.foldl_cons, Match.foldl_better]
      rfl

/-- Nothing is selected exactly if every rule declines. -/
theorem longest_eq_none_iff {rules : List ρ} :
    longest answer rules = none ↔ ∀ rule ∈ rules, answer rule = none := by
  induction rules with
  | nil => simp
  | cons rule rules ih =>
      rw [longest_cons, Match.prefer_eq_none_iff, ih]
      simp

/-- The rules of a list may be tried in two parts. -/
theorem longest_append (rules others : List ρ) :
    longest answer (rules ++ others) =
      Match.prefer (longest answer rules) (longest answer others) := by
  induction rules with
  | nil => simp
  | cons rule rules ih =>
      rw [List.cons_append, longest_cons, longest_cons, ih, Match.prefer_assoc]

/-! ## The first of the longest answers -/

/-- The first of the longest answers: it comes from a rule in front of which all answers stop short
of it and behind which no answer reaches further. -/
def IsFirstLongest (answer : ρ → Option Match) (rules : List ρ) (found : Match) : Prop :=
  ∃ before rule behind, rules = before ++ rule :: behind ∧ answer rule = some found ∧
    (∀ earlier ∈ before.filterMap answer, earlier.extent < found.extent) ∧
    ∀ later ∈ behind.filterMap answer, later.extent ≤ found.extent

namespace IsFirstLongest

variable {rule : ρ} {rules : List ρ} {found : Match}

theorem head (hanswer : answer rule = some found)
    (hbehind : ∀ later ∈ rules.filterMap answer, later.extent ≤ found.extent) :
    IsFirstLongest answer (rule :: rules) found :=
  ⟨[], rule, rules, rfl, hanswer, by simp, hbehind⟩

theorem cons (h : IsFirstLongest answer rules found)
    (hfirst : ∀ earlier ∈ answer rule, earlier.extent < found.extent) :
    IsFirstLongest answer (rule :: rules) found := by
  obtain ⟨before, winner, behind, rfl, hanswer, hbefore, hbehind⟩ := h
  refine ⟨rule :: before, winner, behind, rfl, hanswer, fun earlier hmem => ?_, hbehind⟩
  obtain ⟨other, hother, hearlier⟩ := List.mem_filterMap.mp hmem
  rcases List.mem_cons.mp hother with rfl | hother
  · exact hfirst earlier hearlier
  · exact hbefore earlier (List.mem_filterMap.mpr ⟨other, hother, hearlier⟩)

/-- No answer of the list reaches further. -/
theorem extent_le (h : IsFirstLongest answer rules found) :
    ∀ other ∈ rules.filterMap answer, other.extent ≤ found.extent := by
  obtain ⟨before, winner, behind, rfl, hanswer, hbefore, hbehind⟩ := h
  rw [List.filterMap_append, List.filterMap_cons_some hanswer]
  intro other hmem
  rcases List.mem_append.mp hmem with hmem | hmem
  · exact Nat.le_of_lt (hbefore other hmem)
  · rcases List.mem_cons.mp hmem with rfl | hmem
    · exact Nat.le_refl _
    · exact hbehind other hmem

end IsFirstLongest

theorem isFirstLongest_of_longest {rules : List ρ} {found : Match}
    (h : longest answer rules = some found) : IsFirstLongest answer rules found := by
  -- Along the list: the first rule is compared with what is selected among the others.
  induction rules generalizing found with
  | nil => simp at h
  | cons rule rules ih =>
      rw [longest_cons] at h
      cases hanswer : answer rule with
      | none =>
          rw [hanswer, Match.none_prefer] at h
          exact (ih h).cons (by simp [hanswer])
      | some first =>
          rw [hanswer] at h
          rcases Match.eq_or_extent_lt_of_prefer h with rfl | hlt
          · -- The first rule wins, so even the longest of the later answers reaches no further.
            refine .head hanswer fun later hmem => ?_
            cases hlongest : longest answer rules with
            | none =>
                obtain ⟨other, hother, hlater⟩ := List.mem_filterMap.mp hmem
                simp [longest_eq_none_iff.mp hlongest other hother] at hlater
            | some last =>
                rw [hlongest] at h
                exact Nat.le_trans ((ih hlongest).extent_le later hmem)
                  (Match.extent_le_of_prefer h)
          · have hlater : longest answer rules = some found :=
              (Match.eq_or_eq_of_prefer h).resolve_left fun heq => by
                obtain rfl := Option.some.inj heq
                exact Nat.lt_irrefl _ hlt
            refine (ih hlater).cons fun earlier hearlier => ?_
            obtain rfl : first = earlier := Option.some.inj (hanswer.symm.trans hearlier)
            exact hlt

/-- What is selected is the answer of a rule. -/
theorem exists_answer_of_longest {rules : List ρ} {found : Match}
    (h : longest answer rules = some found) : ∃ rule ∈ rules, answer rule = some found := by
  obtain ⟨before, rule, behind, rfl, hanswer, -⟩ := isFirstLongest_of_longest h
  exact ⟨rule, by simp, hanswer⟩

/-- No answer reaches further than the selected one. -/
theorem extent_le_of_longest {rules : List ρ} {found other : Match} {rule : ρ}
    (h : longest answer rules = some found) (hmem : rule ∈ rules)
    (hother : answer rule = some other) : other.extent ≤ found.extent :=
  (isFirstLongest_of_longest h).extent_le other (List.mem_filterMap.mpr ⟨rule, hmem, hother⟩)

/-- What is selected is the first of the longest answers, and no other match is. -/
theorem longest_eq_some_iff {rules : List ρ} {found : Match} :
    longest answer rules = some found ↔ IsFirstLongest answer rules found := by
  refine ⟨isFirstLongest_of_longest, ?_⟩
  rintro ⟨before, rule, behind, rfl, hanswer, hbefore, hbehind⟩
  have hmem {rules : List ρ} {other : Match} (hother : longest answer rules = some other) :
      other ∈ rules.filterMap answer :=
    List.mem_filterMap.mpr (exists_answer_of_longest hother)
  rw [longest_append, longest_cons, hanswer,
    Match.prefer_eq_earlier fun later hlater => hbehind later (hmem hlater),
    Match.prefer_eq_later fun earlier hearlier => hbefore earlier (hmem hearlier)]

/-- **Maximal munch.**  Nothing is selected exactly if every rule declines; otherwise it is the first
of the longest answers.  Of a list in two parts the better of the two selections is selected, and
the one of the first part unless the other reaches further. -/
theorem longest_maximal_munch (answer : ρ → Option Match) (rules others : List ρ) :
    (longest answer rules = none ↔ ∀ rule ∈ rules, answer rule = none) ∧
      (∀ found, longest answer rules = some found ↔ IsFirstLongest answer rules found) ∧
      longest answer (rules ++ others) =
        (longest answer rules).merge
          (fun left right => if right.extent ≤ left.extent then left else right)
          (longest answer others) := by
  refine ⟨longest_eq_none_iff, fun found => longest_eq_some_iff, ?_⟩
  rw [longest_append]
  cases longest answer rules with
  | none => simp
  | some left =>
      cases longest answer others with
      | none => rfl
      | some right =>
          rw [Match.some_prefer_some, Option.merge_some_some]
          split <;> rfl

/-! ## Changes to a table -/

/-- A selected match is the answer of a rule that no rule of the same reach has to stand in front
of. -/
theorem exists_first_of_longest {precedes : ρ → ρ → Bool} {rules : List ρ} {found : Match}
    (hrules : rules.Pairwise fun earlier later => precedes later earlier = false)
    (h : longest answer rules = some found) :
    ∃ rule ∈ rules, answer rule = some found ∧
      ∀ other ∈ rules, ∀ tied, answer other = some tied → tied.extent = found.extent →
        other = rule ∨ precedes other rule = false := by
  obtain ⟨before, rule, behind, rfl, hanswer, hbefore, -⟩ := isFirstLongest_of_longest h
  refine ⟨rule, by simp, hanswer, fun other hother tied htied hextent => ?_⟩
  rcases List.mem_append.mp hother with hother | hother
  · have hlt := hbefore tied (List.mem_filterMap.mpr ⟨other, hother, htied⟩)
    exact absurd hextent (Nat.ne_of_lt hlt)
  · have hlater := (List.pairwise_cons.mp (List.pairwise_append.mp hrules).2.1).1
    exact (List.mem_cons.mp hother).imp_right (hlater other)

/-- A table may be reordered as long as rules that can reach equally far keep their order. -/
theorem longest_perm {precedes : ρ → ρ → Bool} {rules table : List ρ} (hperm : rules.Perm table)
    (hties : ∀ rule ∈ table, ∀ other ∈ table, ∀ found tied, answer rule = some found →
      answer other = some tied → tied.extent = found.extent →
        rule = other ∨ precedes rule other ∨ precedes other rule)
    (hrules : rules.Pairwise fun earlier later => precedes later earlier = false)
    (htable : table.Pairwise fun earlier later => precedes later earlier = false) :
    longest answer rules = longest answer table := by
  cases hfound : longest answer rules with
  | none =>
      symm
      rw [longest_eq_none_iff] at hfound ⊢
      exact fun rule hmem => hfound rule (hperm.mem_iff.mpr hmem)
  | some found =>
      obtain ⟨rule, hmem, hrule, hfirst⟩ := exists_first_of_longest hrules hfound
      replace hmem := hperm.mem_iff.mp hmem
      cases htied : longest answer table with
      | none => simp [longest_eq_none_iff.mp htied rule hmem] at hrule
      | some tied =>
          obtain ⟨other, hother, hanswer, hfirst'⟩ := exists_first_of_longest htable htied
          have hle := extent_le_of_longest hfound (hperm.mem_iff.mpr hother) hanswer
          have hge := extent_le_of_longest htied hmem hrule
          have hextent : tied.extent = found.extent := Nat.le_antisymm hle hge
          -- Neither of the two may stand in front of the other, so they are one rule.
          have hsame : rule = other := by
            have hbefore := hfirst other (hperm.mem_iff.mpr hother) tied hanswer hextent
            have hbehind := hfirst' rule hmem found hrule hextent.symm
            have htie := hties rule hmem other hother found tied hrule hanswer hextent
            grind
          subst hsame
          exact hrule.symm.trans hanswer

/-- Only the answers matter. -/
theorem longest_congr {other : ρ → Option Match} {rules : List ρ}
    (h : ∀ rule ∈ rules, answer rule = other rule) :
    longest answer rules = longest other rules := by
  induction rules with
  | nil => rfl
  | cons rule rules ih =>
      obtain ⟨hfirst, hlater⟩ := List.forall_mem_cons.mp h
      rw [longest_cons, longest_cons, hfirst, ih hlater]

/-- Rules that decline may be left out. -/
theorem longest_filter {keep : ρ → Bool} {rules : List ρ}
    (h : ∀ rule ∈ rules, keep rule = false → answer rule = none) :
    longest answer (rules.filter keep) = longest answer rules := by
  induction rules with
  | nil => rfl
  | cons rule rules ih =>
      obtain ⟨hfirst, hlater⟩ := List.forall_mem_cons.mp h
      rw [longest_cons, ← ih hlater]
      cases hkeep : keep rule with
      | true => rw [List.filter_cons_of_pos hkeep, longest_cons]
      | false =>
          rw [List.filter_cons_of_neg (by simp [hkeep]), hfirst hkeep, Match.none_prefer]

/-- What of a match does not count in the selection may be changed before or after it. -/
theorem longest_map {view : Match → Match} (hview : ∀ found, (view found).extent = found.extent)
    (rules : List ρ) :
    longest (fun rule => (answer rule).map view) rules = (longest answer rules).map view := by
  induction rules with
  | nil => rfl
  | cons rule rules ih =>
      rw [longest_cons, longest_cons, ih]
      cases answer rule with
      | none => simp
      | some first =>
          cases longest answer rules with
          | none => rfl
          | some later =>
              simp only [Option.map_some, Match.some_prefer_some, hview]
              split <;> rfl

end

end ElixirLexer
