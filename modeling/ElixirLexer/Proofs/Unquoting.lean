import ElixirLexer.Text.Quoted

/-!
# Reading escaped text back

A text between double quotes is read back one character at a time (`Quoted.read?`), by a reader that
knows nothing of Unicode: it undoes the escapes it meets, and takes any other character for itself.
So the written form of a text determines the text (`Quoted.read?_text`), whichever characters were
written by number.  It also stays on its line and in its field (`Quoted.ne_tab_of_mem_text`).

The reader accepts more than is ever written: numbers with leading zeros, and escapes that were not
needed.
-/

namespace ElixirLexer.Quoted

/-! ## Hexadecimal numbers -/

/-- The value of a hexadecimal digit. -/
def hexValue (c : Char) : Nat :=
  if c.isDigit then c.toNat - '0'.toNat else c.toNat - 'a'.toNat + 10

/-- The number that digits behind `value` write. -/
def hexNumber (value : Nat) (digits : List Char) : Nat :=
  digits.foldl (fun value c => 16 * value + hexValue c) value

theorem hexNumber_append (value : Nat) (front back : List Char) :
    hexNumber value (front ++ back) = hexNumber (hexNumber value front) back :=
  List.foldl_append

theorem hexValue_digitChar : ∀ {digit : Nat}, digit < 16 → hexValue digit.digitChar = digit := by
  decide

theorem hexNumber_toDigits (number : Nat) : hexNumber 0 (Nat.toDigits 16 number) = number := by
  induction number using Nat.strongRecOn with
  | ind number ih =>
      by_cases hsmall : number < 16
      · rw [Nat.toDigits_of_lt_base hsmall]
        simp [hexNumber, hexValue_digitChar hsmall]
      · have hlast : hexValue (number % 16).digitChar = number % 16 :=
          hexValue_digitChar (Nat.mod_lt _ (by omega))
        rw [Nat.toDigits_of_base_le (by omega) (by omega), hexNumber_append,
          ih (number / 16) (by omega)]
        simp only [hexNumber, List.foldl_cons, List.foldl_nil, hlast]
        omega

/-- A digit is a letter or a figure. -/
theorem isAlphanum_of_mem_toDigits {number : Nat} {c : Char} (h : c ∈ Nat.toDigits 16 number) :
    c.isAlphanum := by
  have hdigit : ∀ digit < 16, (Nat.digitChar digit).isAlphanum := by decide
  induction number using Nat.strongRecOn with
  | ind number ih =>
      by_cases hsmall : number < 16
      · rw [Nat.toDigits_of_lt_base hsmall, List.mem_singleton] at h
        rw [h]
        exact hdigit number hsmall
      · rw [Nat.toDigits_of_base_le (by omega) (by omega), List.mem_append,
          List.mem_singleton] at h
        rcases h with h | rfl
        · exact ih (number / 16) (by omega) h
        · exact hdigit _ (Nat.mod_lt _ (by omega))

/-! ## The reader -/

/-- Where a reader stands. -/
inductive Reader
  /-- In front of a character or the closing quote. -/
  | plain
  /-- Behind a backslash. -/
  | escaped
  /-- Behind a backslash and `u`. -/
  | numbered
  /-- Among the digits of a number, the ones before having this value. -/
  | digits (value : Nat)
  /-- Behind the closing quote. -/
  | closed

/-- The character that a short escape stands for. -/
def shortEscape? (mark : Char) : Option Char :=
  if mark = '0' then some '\x00'
  else if mark = 't' then some '\t'
  else if mark = 'r' then some '\r'
  else if mark = 'n' then some '\n'
  else if mark = '\\' then some '\\'
  else if mark = '"' then some '"'
  else none

/-- Reads a text up to its closing quote, which nothing may follow. -/
def Reader.read? : Reader → List Char → Option (List Char)
  | closed, [] => some []
  | _, [] => none
  | plain, c :: rest =>
      if c = '"' then closed.read? rest
      else if c = '\\' then escaped.read? rest
      else (plain.read? rest).map (c :: ·)
  | escaped, c :: rest =>
      if c = 'u' then numbered.read? rest
      else (shortEscape? c).bind fun meant => (plain.read? rest).map (meant :: ·)
  | numbered, c :: rest => if c = '{' then (digits 0).read? rest else none
  | digits value, c :: rest =>
      if c = '}' then (plain.read? rest).map (Char.ofNat value :: ·)
      else (digits (16 * value + hexValue c)).read? rest
  | closed, _ :: _ => none

/-- Reads a text between double quotes. -/
def read? : List Char → Option (List Char)
  | [] => none
  | quote :: rest => if quote = '"' then Reader.plain.read? rest else none

/-- Digits up to the closing brace are one number. -/
theorem read?_digits (digits rest : List Char) (value : Nat) (h : ∀ c ∈ digits, c.isAlphanum) :
    (Reader.digits value).read? (digits ++ '}' :: rest) =
      (Reader.plain.read? rest).map (Char.ofNat (hexNumber value digits) :: ·) := by
  induction digits generalizing value with
  | nil => simp [Reader.read?, hexNumber]
  | cons c others ih =>
      obtain ⟨hfirst, hothers⟩ := List.forall_mem_cons.mp h
      have hbrace : c ≠ '}' := by
        rintro rfl
        exact absurd hfirst (by decide)
      rw [List.cons_append, Reader.read?, if_neg hbrace, ih _ hothers]
      rfl

/-- The written form of a character between double quotes has one of three shapes. -/
inductive Writes (c : Char) : List Char → Prop
  | short {mark : Char} (hmark : shortEscape? mark = some c) : Writes c ['\\', mark]
  | number : Writes c (numbered c)
  | itself (hescape : ¬ (c = '\\' ∨ c = '"' ∨ c = '\t' ∨ c = '\n')) : Writes c [c]

theorem writes_encodeChar (c : Char) : Writes c (encodeChar .text c) := by
  unfold encodeChar
  by_cases hshort : c = '\x00' ∨ c = '\t' ∨ c = '\r' ∨ c = '\n' ∨ c = '\\' ∨ c = '"'
  · rcases hshort with rfl | rfl | rfl | rfl | rfl | rfl <;> exact .short rfl
  · simp only [not_or] at hshort
    obtain ⟨hnul, htab, hreturn, hnewline, hbackslash, hquote⟩ := hshort
    have hitself : Writes c [c] := .itself (by simp [hbackslash, hquote, htab, hnewline])
    rw [if_neg hnul, if_neg htab, if_neg hreturn, if_neg hnewline, if_neg hbackslash, if_neg hquote]
    split
    · exact hitself
    · split
      · exact .number
      · exact hitself

/-- The written form of one character is read back. -/
theorem Writes.read?_append {c : Char} {written : List Char} (h : Writes c written)
    (rest : List Char) :
    Reader.plain.read? (written ++ rest) = (Reader.plain.read? rest).map (c :: ·) := by
  cases h with
  | @short mark hmark =>
      have hnumber : mark ≠ 'u' := by
        rintro rfl
        simp [shortEscape?] at hmark
      simp [Reader.read?, hnumber, hmark]
  | number =>
      have hdigits := read?_digits (Nat.toDigits 16 c.toNat) rest 0
        fun _ h => isAlphanum_of_mem_toDigits h
      rw [hexNumber_toDigits, Char.ofNat_toNat] at hdigits
      simpa [numbered, Reader.read?] using hdigits
  | itself hescape =>
      simp only [not_or] at hescape
      simp [Reader.read?, hescape]

/-- **Escaped text is read back.** -/
theorem read?_text (chars : List Char) : read? (text chars) = some chars := by
  have hencoded : Reader.plain.read? (encode .text chars ++ ['"']) = some chars := by
    induction chars with
    | nil => rfl
    | cons c rest ih =>
        rw [encode_cons, List.append_assoc, (writes_encodeChar c).read?_append, ih, Option.map_some]
  exact hencoded

/-! ## One line, one field -/

theorem Writes.ne_tab_of_mem {c d : Char} {written : List Char} (h : Writes c written)
    (hmem : d ∈ written) : d ≠ '\t' ∧ d ≠ '\n' := by
  cases h with
  | @short mark hmark =>
      simp only [List.mem_cons, List.not_mem_nil, or_false] at hmem
      rcases hmem with rfl | rfl
      · decide
      · constructor <;> (rintro rfl; simp [shortEscape?] at hmark)
  | number =>
      simp only [numbered, List.mem_append, List.mem_cons, List.not_mem_nil, or_false] at hmem
      rcases hmem with ((rfl | rfl | rfl) | hdigit) | rfl
      · decide
      · decide
      · decide
      · have halphanum := isAlphanum_of_mem_toDigits hdigit
        constructor <;> (rintro rfl; exact absurd halphanum (by decide))
      · decide
  | itself hescape =>
      obtain rfl := List.mem_singleton.mp hmem
      simp only [not_or] at hescape
      exact ⟨hescape.2.2.1, hescape.2.2.2⟩

/-- Escaped text has neither tabs nor line breaks. -/
theorem ne_tab_of_mem_text {chars : List Char} {d : Char} (h : d ∈ text chars) :
    d ≠ '\t' ∧ d ≠ '\n' := by
  simp only [text, encode, List.mem_cons, List.cons_append, List.mem_append, List.mem_flatMap,
    List.not_mem_nil, or_false] at h
  rcases h with rfl | ⟨c, -, hd⟩ | rfl
  · decide
  · exact (writes_encodeChar c).ne_tab_of_mem hd
  · decide

end ElixirLexer.Quoted
