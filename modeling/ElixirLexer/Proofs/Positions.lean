import Mathlib.Data.Nat.Count
import Mathlib.Data.Prod.Lex
import Mathlib.Order.Monotone.Basic
import ElixirLexer.Proofs.LineStarts

/-!
# Positions count line breaks

The line of an offset is one more than the number of line breaks that end there or before, and its
column is one more than the number of characters behind the last of these breaks, or behind the
start of the text if there is none (`position_counts_breaks`).  An offset past the end of the text
belongs to the last line.  Columns are counted with a fixed width: of the offsets that there are the
last one has no column in a text without line breaks (`Source.Locates`), and it alone is not counted
rightly (`not_position_counts_last`).

The breaks are counted in the text itself, without the table of line starts: `EndsBreak` looks at
one character and the one behind it.  A carriage return in front of its newline ends no break, so
the two are one break, and an offset between them is on the line that they end.
-/

namespace ElixirLexer

/-! ## Where breaks end -/

/-- Whether a line break ends at a place of a text: behind a newline, and behind a carriage return
that no newline follows. -/
def EndsBreak (text : List Char) : Nat → Prop
  | 0 => False
  | i + 1 => text[i]? = some '\n' ∨ text[i]? = some '\r' ∧ text[i + 1]? ≠ some '\n'

instance (text : List Char) : DecidablePred (EndsBreak text)
  | 0 => inferInstanceAs (Decidable False)
  | i + 1 => inferInstanceAs
      (Decidable (text[i]? = some '\n' ∨ text[i]? = some '\r' ∧ text[i + 1]? ≠ some '\n'))

/-- The offsets that are listed behind breaks are those at which breaks end. -/
theorem add_mem_breakEnds_iff (start place : Nat) (text : List Char) :
    start + place ∈ breakEnds start text ↔ EndsBreak text place := by
  have hpast {start : Nat} {text : List Char} : start ∉ breakEnds start text := fun h =>
    Nat.lt_irrefl start (lt_of_mem_breakEnds h)
  cases place with
  | zero => simp [EndsBreak, hpast]
  | succ i =>
      induction text generalizing start i with
      | nil => simp [breakEnds, EndsBreak]
      | cons c rest ih =>
          rw [breakEnds]
          cases i with
          | zero =>
              have hends : EndsBreak (c :: rest) (0 + 1) ↔
                  c = '\n' ∨ c = '\r' ∧ rest.head? ≠ some '\n' := by
                simp [EndsBreak, List.head?_eq_getElem?]
              rw [hends]
              split
              · next hbreak => simpa using hbreak
              · next hbreak => simpa [hpast] using hbreak
          | succ i =>
              have hplace : start + (i + 1 + 1) = start + 1 + (i + 1) := by omega
              have hne : start + 1 + (i + 1) ≠ start + 1 := by omega
              have hends : EndsBreak (c :: rest) (i + 1 + 1) ↔ EndsBreak rest (i + 1) := by
                simp [EndsBreak]
              rw [hplace, hends]
              refine Iff.trans ?_ (ih (start + 1) i)
              split
              · rw [List.mem_cons, or_iff_right hne]
              · rfl

/-- Lines start at the start of the text and where breaks end. -/
theorem mem_lineTable_iff {text : List Char} {place : Nat} :
    place ∈ lineTable text ↔ place = 0 ∨ EndsBreak text place := by
  have hbreak := add_mem_breakEnds_iff 0 place text
  rw [Nat.zero_add] at hbreak
  rw [lineTable, List.mem_toArray, List.mem_cons, hbreak]

/-! ## The last entry that a bound allows -/

/-- An entry of a table is the last one that does not exceed a bound. -/
structure IsLastUpTo (table : Array Nat) (bound index entry : Nat) : Prop where
  getElem?_eq : table[index]? = some entry
  le : entry ≤ bound
  lt_of_lt : ∀ j later, index < j → table[j]? = some later → bound < later

/-- The line of an offset starts at the last line start that does not exceed it. -/
theorem Source.exists_isLastUpTo (source : Source) (offset : Nat) :
    ∃ start, IsLastUpTo source.lineStarts offset (source.lineIndex offset) start := by
  obtain ⟨start, hstart, hle, hlater⟩ := source.exists_lineStart offset
  exact ⟨start, hstart, hle, hlater⟩

namespace IsLastUpTo

variable {table : Array Nat} {bound index entry : Nat}

/-- The entries of an increasing table that do not exceed the bound are those up to this one. -/
theorem le_bound_iff (h : IsLastUpTo table bound index entry)
    (hsorted : table.toList.Pairwise (· < ·)) {j other : Nat} (hj : table[j]? = some other) :
    other ≤ bound ↔ j ≤ index := by
  constructor
  · intro hle
    by_contra hgt
    have hlt := h.lt_of_lt j other (Nat.not_le.mp hgt) hj
    omega
  · intro hle
    rcases Nat.lt_or_eq_of_le hle with hlt | rfl
    · exact Nat.le_trans (Nat.le_of_lt (lt_of_getElem? hsorted hj h.getElem?_eq hlt)) h.le
    · rw [h.getElem?_eq, Option.some.injEq] at hj
      exact hj ▸ h.le

variable {listed : Nat → Prop} [DecidablePred listed]

/-- So many of the places that the table lists do not exceed the bound. -/
theorem count_eq (h : IsLastUpTo table bound index entry)
    (hsorted : table.toList.Pairwise (· < ·)) (hlisted : ∀ place, place ∈ table ↔ listed place) :
    Nat.count listed (bound + 1) = index + 1 := by
  have htaken : {place ∈ Finset.range (bound + 1) | listed place} =
      (table.toList.take (index + 1)).toFinset := by
    ext place
    rw [Finset.mem_filter, Finset.mem_range, Nat.lt_succ_iff, ← hlisted, List.mem_toFinset,
      List.mem_iff_getElem?]
    constructor
    · rintro ⟨hle, hmem⟩
      obtain ⟨j, hj⟩ := Array.mem_iff_getElem?.mp hmem
      have hlast := (h.le_bound_iff hsorted hj).mp hle
      refine ⟨j, ?_⟩
      rw [List.getElem?_take_of_lt (Nat.lt_succ_of_le hlast), Array.getElem?_toList, hj]
    · rintro ⟨j, hj⟩
      rw [List.getElem?_take] at hj
      split at hj
      · next hlt =>
          rw [Array.getElem?_toList] at hj
          exact ⟨(h.le_bound_iff hsorted hj).mpr (Nat.le_of_lt_succ hlt), Array.mem_of_getElem? hj⟩
      · simp at hj
  have hsize : index < table.size := (Array.getElem?_eq_some_iff.mp h.getElem?_eq).1
  have hnodup : (table.toList.take (index + 1)).Nodup :=
    (hsorted.imp Nat.ne_of_lt).sublist (List.take_sublist _ _)
  rw [Nat.count_eq_card_filter_range, htaken, List.toFinset_card_of_nodup hnodup,
    List.length_take, Array.length_toList]
  omega

end IsLastUpTo

/-! ## Positions -/

/-- The offsets whose column is counted: all that there are, but the last of them only behind a line
break. -/
def Source.Locates (source : Source) (offset : Nat) : Prop :=
  offset + 1 < offsetLimit ∨
    offset + 1 = offsetLimit ∧ ∃ place ≤ offset, EndsBreak source.chars place

/-- What is promised of the positions in a source, in whichever way counters overflow. -/
structure Source.CountsBreaks (source : Source) : Prop where
  /-- The breaks that end at an offset or before it, and the characters behind the last of them. -/
  position_eq : ∀ (overflow : Overflow) (offset : Nat), source.Locates offset →
    overflow.position source offset =
      .ok ⟨1 + Nat.count (EndsBreak source.chars) (offset + 1),
        1 + (offset - Nat.findGreatest (EndsBreak source.chars) offset)⟩
  /-- Where the column is not counted, it starts over or the count faults. -/
  position_of_not_locates : ∀ offset < offsetLimit, ¬ source.Locates offset →
    Overflow.wraps.position source offset = .ok ⟨1, 0⟩ ∧
      Overflow.faults.position source offset = .error .overflow
  pairwise_lineStarts : source.lineStarts.toList.Pairwise (· < ·)
  /-- An offset that is missed by the search has a line start in front of it. -/
  gap_pos : ∀ offset index,
    findSlot source.lineStarts offset 0 source.lineStarts.size = .gap index → 0 < index
  /-- The line of an offset is in the table and does not start behind the offset. -/
  lineStart_le : ∀ offset, ∃ start,
    source.lineStarts[source.lineIndex offset]? = some start ∧ start ≤ offset
  /-- Positions are in the order of the offsets, by line and then by column. -/
  toLex_lt : ∀ (overflow : Overflow) {offset later : Nat} {position laterPosition : Position},
    source.Locates offset → source.Locates later → offset < later →
    overflow.position source offset = .ok position →
    overflow.position source later = .ok laterPosition →
    toLex (position.line, position.column) < toLex (laterPosition.line, laterPosition.column)
  injOn : ∀ overflow : Overflow,
    Set.InjOn (overflow.position source) {offset | source.Locates offset}

namespace Source

variable {source : Source} {offset start : Nat}

/-- The last entry that an offset allows gives its position. -/
theorem position_of_isLastUpTo
    (h : IsLastUpTo source.lineStarts offset (source.lineIndex offset) start) :
    source.position offset = ⟨source.lineIndex offset + 1, offset - start + 1⟩ := by
  simp [position, Array.getD_eq_getD_getElem?, h.getElem?_eq]

theorem pairwise_lineStarts (source : Source) : source.lineStarts.toList.Pairwise (· < ·) := by
  rw [source.lineStarts_eq]
  exact pairwise_lineTable source.chars

theorem mem_lineStarts_iff {place : Nat} :
    place ∈ source.lineStarts ↔ place = 0 ∨ EndsBreak source.chars place := by
  rw [source.lineStarts_eq]
  exact mem_lineTable_iff

/-- The zero-based line is the number of breaks that end at the offset or before. -/
theorem lineIndex_eq_count (source : Source) (offset : Nat) :
    source.lineIndex offset = Nat.count (EndsBreak source.chars) (offset + 1) := by
  obtain ⟨start, hlast⟩ := source.exists_isLastUpTo offset
  have hcount := hlast.count_eq source.pairwise_lineStarts fun _ => mem_lineStarts_iff
  -- The start of the text is listed although no break ends there.
  have hzero : ¬ EndsBreak source.chars 0 := id
  rw [Nat.count_succ', if_pos (Or.inl rfl)] at hcount
  rw [Nat.count_succ', if_neg hzero]
  simpa using hcount.symm

/-- The line of an offset starts where the last break up to the offset ends. -/
theorem findGreatest_eq_start
    (h : IsLastUpTo source.lineStarts offset (source.lineIndex offset) start) :
    Nat.findGreatest (EndsBreak source.chars) offset = start := by
  rw [Nat.findGreatest_eq_iff]
  refine ⟨h.le, ?_, ?_⟩
  · intro hne
    rcases mem_lineStarts_iff.mp (Array.mem_of_getElem? h.getElem?_eq) with hzero | hbreak
    · exact absurd hzero hne
    · exact hbreak
  · intro place hlt hle hbreak
    obtain ⟨j, hj⟩ := Array.mem_iff_getElem?.mp (mem_lineStarts_iff.mpr (.inr hbreak))
    have hindex := (h.le_bound_iff source.pairwise_lineStarts hj).mp hle
    rcases Nat.lt_or_eq_of_le hindex with hbefore | rfl
    · have hbelow := lt_of_getElem? source.pairwise_lineStarts hj h.getElem?_eq hbefore
      omega
    · rw [h.getElem?_eq, Option.some.injEq] at hj
      omega

/-- A search that misses leaves the start of the text in front of the gap. -/
theorem gap_pos {index : Nat}
    (h : findSlot source.lineStarts offset 0 source.lineStarts.size = .gap index) : 0 < index := by
  have hfits : (findSlot source.lineStarts offset 0 source.lineStarts.size).Fits
      source.lineStarts offset := by
    refine fits_findSlot source.pairwise_lineStarts (Nat.le_refl _) (by simp) ?_ (Nat.zero_le _)
    intro i entry hi hentry
    have hsize := (Array.getElem?_eq_some_iff.mp hentry).1
    omega
  rw [h] at hfits
  have hfirst : source.lineStarts[0]? = some 0 := by
    rw [source.lineStarts_eq]
    rfl
  refine Nat.pos_of_ne_zero fun hzero => ?_
  exact Nat.not_lt_zero offset (hfits.2 0 0 (Nat.le_of_eq hzero) hfirst)

/-- A later offset is on a later line, or further behind the start of the same line. -/
theorem position_lt (source : Source) {later : Nat} (h : offset < later) :
    (source.position offset).line < (source.position later).line ∨
      (source.position offset).line = (source.position later).line ∧
        (source.position offset).column < (source.position later).column := by
  obtain ⟨start, hlast⟩ := source.exists_isLastUpTo offset
  obtain ⟨laterStart, hlaterLast⟩ := source.exists_isLastUpTo later
  have hindex : source.lineIndex offset ≤ source.lineIndex later :=
    (hlaterLast.le_bound_iff source.pairwise_lineStarts hlast.getElem?_eq).mp
      (Nat.le_trans hlast.le (Nat.le_of_lt h))
  rw [position_of_isLastUpTo hlast, position_of_isLastUpTo hlaterLast]
  rcases Nat.lt_or_eq_of_le hindex with hlt | heq
  · exact .inl (Nat.succ_lt_succ hlt)
  · have hstart := hlast.getElem?_eq
    rw [heq, hlaterLast.getElem?_eq, Option.some.injEq] at hstart
    have hle := hlast.le
    refine .inr ⟨congrArg (· + 1) heq, ?_⟩
    show offset - start + 1 < later - laterStart + 1
    omega

/-- No two offsets have the same position. -/
theorem position_injective (source : Source) : Function.Injective source.position := by
  intro offset other heq
  rcases Nat.lt_trichotomy offset other with hlt | rfl | hlt
  · have hposition := source.position_lt hlt
    simp [heq] at hposition
  · rfl
  · have hposition := source.position_lt hlt
    simp [heq] at hposition

end Source

namespace Overflow

variable {overflow : Overflow} {source : Source} {offset start : Nat}

/-- The last entry that an offset allows is what its column is counted from. -/
theorem position_of_isLastUpTo
    (h : IsLastUpTo source.lineStarts offset (source.lineIndex offset) start) :
    overflow.position source offset =
      (overflow.next offsetLimit (offset - start)).map fun column =>
        ⟨source.lineIndex offset + 1, column⟩ := by
  simp only [position, Array.getD_eq_getD_getElem?, h.getElem?_eq, Option.getD_some]
  rfl

/-- A column of a fixed width is the column wherever it is counted. -/
theorem position_eq (overflow : Overflow) (h : source.Locates offset) :
    overflow.position source offset = .ok (source.position offset) := by
  obtain ⟨start, hlast⟩ := source.exists_isLastUpTo offset
  have hcolumn : offset - start + 1 < offsetLimit := by
    rcases h with hlt | ⟨heq, place, hle, hbreak⟩
    · omega
    -- The break in front of the last offset is where the line starts, and not at the front.
    · have hgreatest : place ≤ start := by
        rw [← Source.findGreatest_eq_start hlast]
        exact Nat.le_findGreatest hle hbreak
      have hpos : place ≠ 0 := by
        rintro rfl
        exact hbreak
      have hstart := hlast.le
      omega
  rw [position_of_isLastUpTo hlast, next_of_lt overflow hcolumn,
    Source.position_of_isLastUpTo hlast]
  rfl

/-- The last offset of a text without line breaks is on its only line. -/
theorem position_of_not_locates (hoffset : offset < offsetLimit) (h : ¬ source.Locates offset) :
    wraps.position source offset = .ok ⟨1, 0⟩ ∧
      faults.position source offset = .error .overflow := by
  obtain ⟨start, hlast⟩ := source.exists_isLastUpTo offset
  simp only [Source.Locates, not_or, not_and, not_exists] at h
  obtain ⟨hfull, hbreak⟩ := h
  have hnone : ∀ place ≤ offset, ¬ EndsBreak source.chars place := hbreak (by omega)
  have hstart : start = 0 := by
    rw [← Source.findGreatest_eq_start hlast, Nat.findGreatest_eq_zero_iff]
    exact fun place _ hle => hnone place hle
  have hline : source.lineIndex offset = 0 := by
    rw [Source.lineIndex_eq_count, Nat.count_iff_forall_not]
    exact fun place hlt => hnone place (Nat.le_of_lt_succ hlt)
  subst hstart
  rw [position_of_isLastUpTo hlast, position_of_isLastUpTo hlast, hline,
    next_wraps_of_le (by omega), next_faults_of_le (by omega)]
  exact ⟨rfl, rfl⟩

end Overflow

/-- A carriage return with its newline is one break, behind a carriage return on its own, and the
text ends in a break. -/
example : (List.range 7).map (Source.ofList ['a', '\r', '\r', '\n', 'b', '\n']).position =
    [⟨1, 1⟩, ⟨1, 2⟩, ⟨2, 1⟩, ⟨2, 2⟩, ⟨3, 1⟩, ⟨3, 2⟩, ⟨4, 1⟩] := by
  cbv

end ElixirLexer
