import Mathlib.Data.List.Basic
import ElixirLexer.Mode.Printer
import ElixirLexer.Proofs.Unquoting

/-!
# The words of a transition tell the transition

A log shows a change of the stack in words.  Two transitions that are written alike are the same
(`Transition.print_injective`), so nothing is lost by writing them: the mode with its delimiters,
its counters and its quote can be told from the text.

The argument goes along the text.  Where a name, a truth value, a character between apostrophes or a
mode has been written, it can be told where it ends, whatever comes behind (`PrefixFree`); a number
ends where a character follows that is no digit.  There is no reader of such texts here.
-/

namespace ElixirLexer

/-- Written values can be told apart with anything behind them, and so can what is behind. -/
def PrefixFree {α : Type} (write : α → List Char) : Prop :=
  ∀ ⦃a b : α⦄ ⦃s t : List Char⦄, write a ++ s = write b ++ t → a = b ∧ s = t

theorem PrefixFree.injective {α : Type} {write : α → List Char} (h : PrefixFree write) :
    Function.Injective write := by
  intro a b heq
  have hempty : write a ++ [] = write b ++ [] := by rw [heq]
  exact (h hempty).1

/-! ## Names, numbers and characters -/

theorem Literal.prefixFree_name : PrefixFree fun literal : Literal => literal.name.toList := by
  intro a b s t h
  cases a <;> cases b <;> simp_all [Literal.name]

theorem Printer.prefixFree_flag : PrefixFree fun value : Bool => (flag value).toList := by
  intro a b s t h
  cases a <;> cases b <;> simp_all [flag]

/-- Texts of one class of characters end where a character that is not of the class follows. -/
theorem eq_of_append_cons {belongs : Char → Bool} {front other s t : List Char} {c : Char}
    (hfront : ∀ d ∈ front, belongs d) (hother : ∀ d ∈ other, belongs d) (hc : belongs c = false)
    (h : front ++ c :: s = other ++ c :: t) : front = other ∧ s = t := by
  have htaken := congrArg (List.takeWhile belongs) h
  rw [List.takeWhile_append_of_pos hfront, List.takeWhile_append_of_pos hother,
    List.takeWhile_cons_of_neg (by simp [hc]), List.takeWhile_cons_of_neg (by simp [hc]),
    List.append_nil, List.append_nil] at htaken
  subst htaken
  exact ⟨rfl, (List.cons.inj (List.append_cancel_left h)).2⟩

/-- A number ends in front of a character that is no digit. -/
theorem eq_of_toDigits_append {n m : Nat} {c : Char} {s t : List Char} (hc : c.isDigit = false)
    (h : Nat.toDigits 10 n ++ c :: s = Nat.toDigits 10 m ++ c :: t) : n = m ∧ s = t := by
  have hdigits (number : Nat) : ∀ d ∈ Nat.toDigits 10 number, d.isDigit := fun d hmem =>
    Nat.isDigit_of_mem_toDigits (by omega) (by omega) hmem
  obtain ⟨hwritten, hbehind⟩ := eq_of_append_cons (hdigits n) (hdigits m) hc h
  have hnumber := congrArg (fun digits => Nat.ofDigitChars 10 digits 0) hwritten
  exact ⟨by simpa using hnumber, hbehind⟩

namespace Quoted

/-- The character that a short escape between apostrophes stands for. -/
def apostropheEscape? (mark : Char) : Option Char :=
  if mark = '\'' then some '\'' else if mark = '"' then none else shortEscape? mark

/-- The written form of a character between apostrophes has one of three shapes. -/
inductive Marks (c : Char) : List Char → Prop
  | short {mark : Char} (hmark : apostropheEscape? mark = some c) : Marks c ['\\', mark]
  | number : Marks c (numbered c)
  | itself (hescape : c ≠ '\\') : Marks c [c]

theorem marks_encodeChar (c : Char) : Marks c (encodeChar .character c) := by
  unfold encodeChar
  by_cases hshort : c = '\x00' ∨ c = '\t' ∨ c = '\r' ∨ c = '\n' ∨ c = '\\' ∨ c = '\''
  · rcases hshort with rfl | rfl | rfl | rfl | rfl | rfl <;> exact .short rfl
  · simp only [not_or] at hshort
    obtain ⟨hnul, htab, hreturn, hnewline, hbackslash, hquote⟩ := hshort
    rw [if_neg hnul, if_neg htab, if_neg hreturn, if_neg hnewline, if_neg hbackslash, if_neg hquote]
    split
    · exact .itself hbackslash
    · split
      · exact .number
      · exact .itself hbackslash

theorem Marks.eq {c d : Char} {written other s t : List Char} (hc : Marks c written)
    (hd : Marks d other) (h : written ++ s = other ++ t) : c = d ∧ s = t := by
  -- Between apostrophes no short escape is a `u`, so the second character tells it from a number.
  have hshort {mark : Char} {meant : Char} (hmark : apostropheEscape? mark = some meant) :
      mark ≠ 'u' := by
    rintro rfl
    simp [apostropheEscape?, shortEscape?] at hmark
  cases hc with
  | short hmark =>
      cases hd with
      | short hother =>
          simp only [List.cons_append, List.nil_append, List.cons.injEq, true_and] at h
          obtain ⟨rfl, rfl⟩ := h
          exact ⟨Option.some.inj (hmark.symm.trans hother), rfl⟩
      | number => simp [numbered, hshort hmark] at h
      | itself hescape => simp [Ne.symm hescape] at h
  | number =>
      cases hd with
      | short hother => simp [numbered, Ne.symm (hshort hother)] at h
      | number =>
          simp only [numbered, List.append_assoc, List.cons_append, List.nil_append,
            List.cons.injEq, true_and] at h
          have hdigits (number : Nat) : ∀ digit ∈ Nat.toDigits 16 number, digit.isAlphanum :=
            fun digit hmem => isAlphanum_of_mem_toDigits hmem
          obtain ⟨hwritten, hbehind⟩ := eq_of_append_cons (hdigits _) (hdigits _) (by decide) h
          have hnumber := congrArg (hexNumber 0) hwritten
          rw [hexNumber_toDigits, hexNumber_toDigits] at hnumber
          exact ⟨Char.toNat_inj.mp hnumber, hbehind⟩
      | itself hescape => simp [numbered, Ne.symm hescape] at h
  | itself hescape =>
      cases hd with
      | short hother => simp [hescape] at h
      | number => simp [numbered, hescape] at h
      | itself hother => simpa using h

theorem prefixFree_character : PrefixFree character := by
  intro c d s t h
  simp only [character, List.cons_append, List.append_assoc, List.cons.injEq, true_and] at h
  obtain ⟨rfl, hbehind⟩ := (marks_encodeChar c).eq (marks_encodeChar d) h
  simpa using hbehind

end Quoted

/-! ## Modes and transitions -/

open Printer

theorem Group.prefixFree_print : PrefixFree fun group : Group => group.print.toList := by
  intro a b s t h
  simp only [Group.print, record, character, String.reduceAppend, String.toList_append,
    String.reduceToList, String.toList_ofList, Nat.toString_eq_repr, Nat.toList_repr, List.map_cons,
    List.map_nil, String.intercalate_cons_cons, String.intercalate_singleton, List.append_assoc,
    List.cons_append, List.nil_append, List.cons.injEq, true_and] at h
  obtain ⟨hliteral, h⟩ := Literal.prefixFree_name h
  simp only [List.cons.injEq, true_and] at h
  obtain ⟨hopener, h⟩ := Quoted.prefixFree_character h
  simp only [List.cons.injEq, true_and] at h
  obtain ⟨hcloser, h⟩ := Quoted.prefixFree_character h
  simp only [List.cons.injEq, true_and] at h
  obtain ⟨hdepth, h⟩ := eq_of_toDigits_append rfl h
  simp only [List.cons.injEq, true_and] at h
  obtain ⟨hinterpolating, h⟩ := prefixFree_flag h
  simp only [List.cons.injEq, true_and] at h
  cases a
  cases b
  simp_all

theorem Heredoc.prefixFree_print : PrefixFree fun heredoc : Heredoc => heredoc.print.toList := by
  intro a b s t h
  simp only [Heredoc.print, record, character, String.reduceAppend, String.toList_append,
    String.reduceToList, String.toList_ofList, Nat.toString_eq_repr, Nat.toList_repr, List.map_cons,
    List.map_nil, String.intercalate_cons_cons, String.intercalate_singleton, List.append_assoc,
    List.cons_append, List.nil_append, List.cons.injEq, true_and] at h
  obtain ⟨hliteral, h⟩ := Literal.prefixFree_name h
  simp only [List.cons.injEq, true_and] at h
  obtain ⟨hquote, h⟩ := Quoted.prefixFree_character h
  simp only [List.cons.injEq, true_and] at h
  obtain ⟨hinterpolating, h⟩ := prefixFree_flag h
  simp only [List.cons.injEq, true_and] at h
  obtain ⟨hindent, h⟩ := eq_of_toDigits_append rfl h
  simp only [List.cons.injEq, true_and] at h
  cases a
  cases b
  simp_all

/-- A constructor tells its argument. -/
theorem Printer.prefixFree_applied {α : Type} {write : α → String} (name : String)
    (h : PrefixFree fun a => (write a).toList) :
    PrefixFree fun a => (applied name (write a)).toList := by
  intro a b s t heq
  simp only [applied, String.toList_append, List.append_assoc] at heq
  obtain ⟨rfl, hbehind⟩ := h (List.append_cancel_left (List.append_cancel_left heq))
  exact ⟨rfl, List.append_cancel_left hbehind⟩

theorem Mode.prefixFree_print : PrefixFree fun mode : Mode => mode.print.toList := by
  intro a b s t h
  -- Modes of two forms differ within their names; with one form their contexts are left.
  cases a with
  | initial | sigilName | sigilModifiers =>
      cases b <;> simp_all [print, applied, record, id, ModeId.name]
  | sigilDelimiter interpolating =>
      cases b with
      | sigilDelimiter other =>
          simp only [print, record, id, ModeId.name, String.reduceAppend, String.toList_append,
            String.reduceToList, List.map_cons, List.map_nil, String.intercalate_singleton,
            List.append_assoc, List.cons_append, List.nil_append, List.cons.injEq, true_and] at h
          obtain ⟨rfl, hbehind⟩ := prefixFree_flag h
          simpa using hbehind
      | _ => simp [print, applied, record, id, ModeId.name] at h
  | group body =>
      cases b with
      | group other =>
          obtain ⟨rfl, hbehind⟩ := prefixFree_applied "Group" Group.prefixFree_print h
          exact ⟨rfl, hbehind⟩
      | _ => simp [print, applied, record, id, ModeId.name] at h
  | heredocOpen heredoc =>
      cases b with
      | heredocOpen other =>
          obtain ⟨rfl, hbehind⟩ := prefixFree_applied "HeredocOpen" Heredoc.prefixFree_print h
          exact ⟨rfl, hbehind⟩
      | _ => simp [print, applied, record, id, ModeId.name] at h
  | heredocBody heredoc =>
      cases b with
      | heredocBody other =>
          obtain ⟨rfl, hbehind⟩ := prefixFree_applied "HeredocBody" Heredoc.prefixFree_print h
          exact ⟨rfl, hbehind⟩
      | _ => simp [print, applied, record, id, ModeId.name] at h
  | interpolation depth =>
      cases b with
      | interpolation other =>
          simp only [print, record, id, ModeId.name, String.reduceAppend, String.toList_append,
            String.reduceToList, Nat.toString_eq_repr, Nat.toList_repr, List.map_cons, List.map_nil,
            String.intercalate_singleton, List.append_assoc, List.cons_append, List.nil_append,
            List.cons.injEq, true_and] at h
          obtain ⟨rfl, hbehind⟩ := eq_of_toDigits_append rfl h
          simpa using hbehind
      | _ => simp [print, applied, record, id, ModeId.name] at h

/-- **The words of a transition tell the transition.** -/
theorem Transition.print_injective : Function.Injective Transition.print := by
  intro a b h
  replace h := congrArg String.toList h
  cases a with
  | stay | pop => cases b <;> simp_all [print, applied]
  | push mode =>
      cases b with
      | push other =>
          exact congrArg push ((prefixFree_applied "Push" Mode.prefixFree_print).injective h)
      | _ => simp [print, applied] at h
  | replace mode =>
      cases b with
      | replace other =>
          exact congrArg replace ((prefixFree_applied "Replace" Mode.prefixFree_print).injective h)
      | _ => simp [print, applied] at h

end ElixirLexer
