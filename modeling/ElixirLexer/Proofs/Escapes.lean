import ElixirLexer.Proofs.Reading

/-!
# Escaped characters

In the bodies of literals a backslash takes the next character with it, whatever it is, and at the
end of the text it stands alone.  Here a text is read from the left, one character at a time, and
each character that no escape takes is left bare.  The scans of the rules take an escape in one
step, so what is said here about bare characters does not depend on how they go about it.

Cutting a text in two does not change which characters are bare, unless the cut is between a
backslash and the character behind it: then the second part has to be told (`bare_append`).
-/

namespace ElixirLexer

/-- Whether a text ends with a backslash that still waits for the character it escapes.  `escaped`
says whether such a backslash stands in front of the text. -/
def endsEscaping (escaped : Bool) : List Char → Bool
  | [] => escaped
  | c :: rest => endsEscaping (!escaped && c == '\\') rest

/-- The characters of a text, each at its own place, without those of its escapes: the backslash and
the character behind it. -/
def bare (escaped : Bool) : List Char → List (Option Char)
  | [] => []
  | c :: rest =>
      (if escaped || c == '\\' then none else some c) :: bare (!escaped && c == '\\') rest

section

variable {escaped : Bool} {c : Char} {text : List Char}

@[simp] theorem bare_nil : bare escaped [] = [] := rfl

@[simp] theorem length_bare (escaped : Bool) (text : List Char) :
    (bare escaped text).length = text.length := by
  induction text generalizing escaped with
  | nil => rfl
  | cons c rest ih => simp [bare, ih]

/-- An escape leaves neither of its characters bare. -/
theorem bare_escape (d : Char) (behind : List Char) :
    bare false ('\\' :: d :: behind) = none :: none :: bare false behind := by
  simp [bare]

theorem bare_cons (h : c ≠ '\\') (rest : List Char) :
    bare false (c :: rest) = some c :: bare false rest := by
  have hbeq : (c == '\\') = false := beq_eq_false_iff_ne.mpr h
  simp [bare, hbeq]

theorem bare_append (front back : List Char) :
    bare escaped (front ++ back) =
      bare escaped front ++ bare (endsEscaping escaped front) back := by
  induction front generalizing escaped with
  | nil => rfl
  | cons c rest ih => simp [bare, endsEscaping, ih]

/-- What is bare in the first part of a text is bare in the text. -/
theorem bare_take (count : Nat) (text : List Char) :
    bare escaped (text.take count) = (bare escaped text).take count := by
  have happend : bare escaped (text.take count ++ text.drop count) = _ := bare_append _ _
  rw [List.take_append_drop] at happend
  by_cases hcount : count ≤ text.length
  · rw [happend, List.take_left' (by simp [hcount])]
  · rw [List.take_of_length_le (by omega), List.take_of_length_le (by simp; omega)]

end

/-! ## Counting -/

/-- How often a character is found bare in a text. -/
def bareCount (c : Char) (text : List Char) : Nat :=
  (bare false text).count (some c)

section

variable {c : Char}

@[simp] theorem bareCount_nil : bareCount c [] = 0 := rfl

theorem bareCount_escape (d : Char) (behind : List Char) :
    bareCount c ('\\' :: d :: behind) = bareCount c behind := by
  simp [bareCount, bare_escape]

theorem bareCount_cons {d : Char} (h : d ≠ '\\') (rest : List Char) :
    bareCount c (d :: rest) = bareCount c rest + if d = c then 1 else 0 := by
  simp [bareCount, bare_cons h, List.count_cons]

theorem bareCount_le_length (c : Char) (text : List Char) : bareCount c text ≤ text.length := by
  have hle := List.count_le_length (a := some c) (l := bare false text)
  rwa [length_bare] at hle

end

end ElixirLexer
