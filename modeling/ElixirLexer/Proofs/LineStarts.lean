import ElixirLexer.Cursor
import ElixirLexer.Text.Source

/-!
# The table of line starts

The table lists the offsets at which lines start in increasing order, each of them once.  A line
starts at the start of the text and just behind every line break, and a carriage return in front of
a newline is not a break of its own (`Cursor.offset_mem_lineTable_iff`).

The search in the table finds the last line that starts at an offset or before it, also for an
offset past the end of the text (`Source.exists_lineStart`).  So an offset is in column 1 if and
only if a line starts there.
-/

namespace ElixirLexer

/-! ## Lines start in increasing order -/

theorem lt_of_mem_breakEnds {text : List Char} {start place : Nat}
    (h : place ∈ breakEnds start text) : start < place := by
  induction text generalizing start with
  | nil => simp [breakEnds] at h
  | cons c rest ih =>
      rw [breakEnds] at h
      split at h
      · rcases List.mem_cons.mp h with rfl | h
        · exact Nat.lt_succ_self start
        · exact Nat.lt_of_succ_lt (ih h)
      · exact Nat.lt_of_succ_lt (ih h)

theorem pairwise_breakEnds (start : Nat) (text : List Char) :
    (breakEnds start text).Pairwise (· < ·) := by
  induction text generalizing start with
  | nil => simp [breakEnds]
  | cons c rest ih =>
      rw [breakEnds]
      split
      · exact List.pairwise_cons.mpr
          ⟨fun place hplace => lt_of_mem_breakEnds hplace, ih (start + 1)⟩
      · exact ih (start + 1)

/-- The entries of an increasing table increase with their indices. -/
theorem lt_of_getElem? {table : Array Nat} (hsorted : table.toList.Pairwise (· < ·))
    {i j first second : Nat} (hi : table[i]? = some first) (hj : table[j]? = some second)
    (hij : i < j) : first < second := by
  obtain ⟨hisize, rfl⟩ := Array.getElem?_eq_some_iff.mp hi
  obtain ⟨hjsize, rfl⟩ := Array.getElem?_eq_some_iff.mp hj
  exact List.pairwise_iff_getElem.mp hsorted i j hisize hjsize hij

theorem pairwise_lineTable (text : List Char) : (lineTable text).toList.Pairwise (· < ·) :=
  List.pairwise_cons.mpr ⟨fun _ hplace => lt_of_mem_breakEnds hplace, pairwise_breakEnds 0 text⟩

/-! ## Where lines start -/

/-- Just behind the first part of a text a break ends if the last character of the part is one. -/
theorem mem_breakEnds_append_iff (start : Nat) (front back : List Char) :
    start + front.length ∈ breakEnds start (front ++ back) ↔
      front.getLast? = some '\n' ∨ front.getLast? = some '\r' ∧ back.head? ≠ some '\n' := by
  have hpast {place : Nat} {text : List Char} : place ∉ breakEnds place text := fun h =>
    Nat.lt_irrefl place (lt_of_mem_breakEnds h)
  induction front generalizing start with
  | nil => simp [hpast]
  | cons c rest ih =>
      cases rest with
      | nil =>
          rw [List.singleton_append, breakEnds]
          split
          · next hbreak => simpa using hbreak
          · next hbreak => simpa [hpast] using hbreak
      | cons d behind =>
          have hplace : start + (c :: d :: behind).length = start + 1 + (d :: behind).length := by
            simp only [List.length_cons]
            omega
          have hne : start + 1 + (d :: behind).length ≠ start + 1 := by simp
          rw [List.getLast?_cons_cons, hplace, List.cons_append, breakEnds]
          refine Iff.trans ?_ (ih (start + 1))
          split
          · rw [List.mem_cons, or_iff_right hne]
          · rfl

/-- A line starts at the start of a text, and just behind a newline or a carriage return that no
newline follows. -/
theorem Cursor.offset_mem_lineTable_iff (cursor : Cursor) :
    cursor.offset ∈ lineTable cursor.text ↔
      cursor.before = [] ∨ cursor.previous? = some '\n' ∨
        cursor.previous? = some '\r' ∧ cursor.first? ≠ some '\n' := by
  have hbreak := mem_breakEnds_append_iff 0 cursor.before.reverse cursor.rest
  rw [Nat.zero_add, List.length_reverse, List.getLast?_reverse] at hbreak
  rw [lineTable, List.mem_toArray, List.mem_cons, Cursor.offset, Cursor.text, hbreak,
    List.length_eq_zero_iff]
  rfl

/-! ## The search -/

/-- A slot is the place of a key in a table: the key is there, or all entries in front of the slot
are smaller and all others larger. -/
def Slot.Fits (table : Array Nat) (key : Nat) : Slot → Prop
  | .found index => table[index]? = some key
  | .gap index => (∀ i < index, ∃ entry, table[i]? = some entry ∧ entry < key) ∧
      ∀ i entry, index ≤ i → table[i]? = some entry → key < entry

theorem fits_findSlot {table : Array Nat} {key low high : Nat}
    (hsorted : table.toList.Pairwise (· < ·)) (hhigh : high ≤ table.size)
    (hbelow : ∀ i < low, ∃ entry, table[i]? = some entry ∧ entry < key)
    (habove : ∀ i entry, high ≤ i → table[i]? = some entry → key < entry) (hle : low ≤ high) :
    (findSlot table key low high).Fits table key := by
  fun_induction findSlot table key low high with
  | case1 low high hlow middle hnone =>
      rw [Array.getElem?_eq_none_iff] at hnone
      omega
  | case2 low high hlow middle hentry => exact hentry
  | case3 low high hlow middle entry hentry hne hsmall ih =>
      refine ih hhigh (fun i hi => ?_) habove (by omega)
      have hsize : i < table.size := by omega
      refine ⟨table[i], Array.getElem?_eq_getElem hsize, ?_⟩
      rcases Nat.lt_or_eq_of_le (Nat.le_of_lt_succ hi) with hi | rfl
      · exact Nat.lt_trans
          (lt_of_getElem? hsorted (Array.getElem?_eq_getElem hsize) hentry hi) hsmall
      · rw [Array.getElem?_eq_getElem hsize, Option.some.injEq] at hentry
        rwa [hentry]
  | case4 low high hlow middle entry hentry hne hsmall ih =>
      refine ih (by omega) hbelow (fun i later hi hlater => ?_) (by omega)
      rcases Nat.lt_or_eq_of_le hi with hi | rfl
      · have := lt_of_getElem? hsorted hentry hlater hi
        omega
      · rw [hentry, Option.some.injEq] at hlater
        omega
  | case5 low high hlow =>
      obtain rfl : low = high := by omega
      exact ⟨hbelow, habove⟩

namespace Source

variable (source : Source) (offset : Nat)

/-- An offset is on the last line that starts there or before, past the end of the text as well. -/
theorem exists_lineStart :
    ∃ start, source.lineStarts[source.lineIndex offset]? = some start ∧ start ≤ offset ∧
      ∀ i later, source.lineIndex offset < i → source.lineStarts[i]? = some later →
        offset < later := by
  obtain ⟨chars, lineStarts, rfl⟩ := source
  have hfits : (findSlot (lineTable chars) offset 0 (lineTable chars).size).Fits
      (lineTable chars) offset := by
    refine fits_findSlot (pairwise_lineTable chars) (Nat.le_refl _) (by simp) ?_ (Nat.zero_le _)
    intro i entry hi hentry
    obtain ⟨hsize, -⟩ := Array.getElem?_eq_some_iff.mp hentry
    omega
  have hzero : (lineTable chars)[0]? = some 0 := by simp [lineTable]
  unfold lineIndex
  cases hslot : findSlot (lineTable chars) offset 0 (lineTable chars).size with
  | found index =>
      rw [hslot] at hfits
      exact ⟨offset, hfits, Nat.le_refl _, fun i later hi hlater =>
        lt_of_getElem? (pairwise_lineTable chars) hfits hlater hi⟩
  | gap index =>
      rw [hslot] at hfits
      obtain ⟨hbelow, habove⟩ := hfits
      cases index with
      | zero => exact absurd (habove 0 0 (Nat.le_refl _) hzero) (Nat.not_lt_zero _)
      | succ index =>
          obtain ⟨start, hstart, hle⟩ := hbelow index (Nat.lt_succ_self index)
          exact ⟨start, hstart, Nat.le_of_lt hle, fun i later hi => habove i later hi⟩

/-- An offset is in column 1 if and only if a line starts there. -/
theorem column_eq_one_iff :
    (source.position offset).column = 1 ↔ offset ∈ source.lineStarts := by
  obtain ⟨start, hstart, hle, hlater⟩ := source.exists_lineStart offset
  have hcolumn : (source.position offset).column = offset - start + 1 := by
    simp [position, Array.getD_eq_getD_getElem?, hstart]
  rw [hcolumn]
  constructor
  · intro h
    obtain rfl : start = offset := by omega
    exact Array.mem_of_getElem? hstart
  · intro hmem
    obtain ⟨i, hi⟩ := Array.mem_iff_getElem?.mp hmem
    have hnot : ¬ source.lineIndex offset < i := fun hlt =>
      Nat.lt_irrefl offset (hlater i offset hlt hi)
    rcases Nat.lt_or_eq_of_le (Nat.not_lt.mp hnot) with hlt | rfl
    · rw [source.lineStarts_eq] at hi hstart
      have := lt_of_getElem? (pairwise_lineTable source.chars) hi hstart hlt
      omega
    · rw [hi, Option.some.injEq] at hstart
      omega

end Source

namespace Cursor

/-- Whether the cursor stands between a carriage return and its newline. -/
def splitsBreak (cursor : Cursor) : Bool :=
  cursor.previous? == some '\r' && cursor.first? == some '\n'

/-- The rules find the start of a line by the character behind them, and call the middle of a line
break the start of a line too.  Everywhere else this is what the table says. -/
theorem column_eq_one_iff (cursor : Cursor) :
    ((Source.ofList cursor.text).position cursor.offset).column = 1 ↔
      cursor.atLineStart ∧ cursor.splitsBreak = false := by
  rw [Source.column_eq_one_iff]
  refine (offset_mem_lineTable_iff cursor).trans ?_
  obtain ⟨before, rest⟩ := cursor
  cases before with
  | nil => simp [atLineStart, splitsBreak, previous?]
  | cons c behind =>
      by_cases hreturn : c = '\r'
      · simp [atLineStart, splitsBreak, previous?, hreturn]
      · simp [atLineStart, splitsBreak, previous?, hreturn]

end Cursor

end ElixirLexer
