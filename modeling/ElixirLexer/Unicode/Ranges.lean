/-!
# Character properties as ascending ranges

A property of characters is kept as the list of its maximal ranges, lowest first.  Looking a code
point up stops at the first range that starts beyond it, so a listed range is found only because
the list is ascending; on a list out of order the look-up may miss.
-/

namespace ElixirLexer.Unicode

/-- Inclusive ranges of code points, lowest first. -/
abbrev Ranges := List (Nat × Nat)

/-- Whether some range covers `code`.  The search stops at the first range above `code`. -/
def Ranges.covers : Ranges → Nat → Bool
  | [], _ => false
  | (first, last) :: higher, code =>
      if code < first then false
      else if code ≤ last then true
      else covers higher code

/-- A code point that is covered lies in a listed range. -/
theorem Ranges.exists_of_covers {ranges : Ranges} {code : Nat}
    (h : ranges.covers code = true) :
    ∃ range ∈ ranges, range.1 ≤ code ∧ code ≤ range.2 := by
  induction ranges with
  | nil => simp [covers] at h
  | cons range higher ih =>
      obtain ⟨first, last⟩ := range
      unfold covers at h
      split at h
      · simp at h
      · split at h
        · exact ⟨(first, last), by simp, by omega, by assumption⟩
        · obtain ⟨found, hmem, hbounds⟩ := ih h
          exact ⟨found, List.mem_cons_of_mem _ hmem, hbounds⟩

end ElixirLexer.Unicode
