import Mathlib.Computability.RegularExpressions
import ElixirLexer.Proofs.CodeRules

/-!
# The grammar of numbers

The scanner of numbers is greedy and takes back what turns out to be no part of the number: a base
letter without digits, a point without a fraction, an `e` or its sign without an exponent.  Here the
numbers are described as a language instead, by a regular expression over explicit characters, and
the scanner is shown to find the longest word of that language at the head of the text.

The regular expression says nothing about the order in which its branches are tried.  That the
greedy order misses nothing rests on two facts: what may follow a run of digits never begins with a
character that the run could still take (`IsLongestPrefix.digits_mul`), and a number with a base
letter is longer than the zero at which the decimal branch would stop.
-/

namespace ElixirLexer

/-- So many characters of a text are the longest word of a language at its head. -/
structure IsLongestPrefix (language : Language Char) (text : List Char) (length : Nat) : Prop where
  length_le : length ≤ text.length
  take_mem : text.take length ∈ language
  le_length : ∀ word ∈ language, word <+: text → word.length ≤ length

namespace NumberGrammar

open RegularExpression (star matches'_mul matches'_star)

/-! ## The language -/

/-- One of the given characters. -/
def oneOf (chars : List Char) : RegularExpression Char :=
  chars.foldr (fun c others => .char c + others) 0

/-- One or more words of an expression. -/
def many (word : RegularExpression Char) : RegularExpression Char :=
  word * star word

/-- A word of an expression, or nothing. -/
def optional (word : RegularExpression Char) : RegularExpression Char :=
  1 + word

/-- A digit and further digits, which underscores may group. -/
def digits : RegularExpression Char :=
  oneOf "0123456789".toList * star (oneOf "0123456789_".toList)

/-- An exponent with its letter. -/
def exponent : RegularExpression Char :=
  oneOf ['e', 'E'] * (optional (oneOf ['+', '-']) * digits)

/-- A fraction with its point. -/
def fraction : RegularExpression Char :=
  oneOf ['.'] * (digits * optional exponent)

/-- A decimal number. -/
def decimal : RegularExpression Char :=
  digits * optional fraction

/-- A number with a base letter. -/
def based (letter : Char) (chars : List Char) : RegularExpression Char :=
  oneOf ['0'] * (oneOf [letter] * many (oneOf chars))

/-- A number in one of the three bases. -/
def inBase : RegularExpression Char :=
  based 'x' "0123456789abcdefABCDEF_".toList + based 'o' "01234567_".toList
    + based 'b' "01_".toList

/-- The numbers. -/
def number : RegularExpression Char :=
  inBase + decimal

/-! ## Words of the parts -/

section

variable {language : Language Char} {chars : List Char} {c : Char} {word : List Char}

theorem mem_oneOf : word ∈ (oneOf chars).matches' ↔ ∃ c ∈ chars, word = [c] := by
  unfold oneOf
  induction chars with
  | nil =>
      rw [List.foldr_nil, RegularExpression.matches'_zero]
      simp [Language.notMem_zero]
  | cons first others ih =>
      rw [List.foldr_cons, RegularExpression.matches'_add, Language.mem_add, ih]
      constructor
      · rintro (hword | ⟨c, hc, rfl⟩)
        · exact ⟨first, List.mem_cons_self, hword⟩
        · exact ⟨c, List.mem_cons_of_mem _ hc, rfl⟩
      · rintro ⟨c, hc, rfl⟩
        rcases List.mem_cons.mp hc with rfl | hc
        · exact .inl rfl
        · exact .inr ⟨c, hc, rfl⟩

theorem nil_notMem_oneOf_mul : [] ∉ (oneOf chars).matches' * language := by
  rw [Language.mem_mul]
  rintro ⟨first, hfirst, others, -, happend⟩
  obtain ⟨c, -, rfl⟩ := mem_oneOf.mp hfirst
  simp at happend

theorem cons_mem_oneOf_mul :
    c :: word ∈ (oneOf chars).matches' * language ↔ c ∈ chars ∧ word ∈ language := by
  rw [Language.mem_mul]
  constructor
  · rintro ⟨first, hfirst, others, hothers, happend⟩
    obtain ⟨d, hd, rfl⟩ := mem_oneOf.mp hfirst
    obtain ⟨rfl, rfl⟩ := List.cons.inj happend
    exact ⟨hd, hothers⟩
  · rintro ⟨hc, hword⟩
    exact ⟨[c], mem_oneOf.mpr ⟨c, hc, rfl⟩, word, hword, rfl⟩

theorem mem_star_oneOf : word ∈ (star (oneOf chars)).matches' ↔ ∀ c ∈ word, c ∈ chars := by
  rw [matches'_star, Language.mem_kstar]
  constructor
  · rintro ⟨pieces, rfl, hpieces⟩ c hc
    obtain ⟨piece, hpiece, hmem⟩ := List.mem_flatten.mp hc
    obtain ⟨d, hd, rfl⟩ := mem_oneOf.mp (hpieces piece hpiece)
    rwa [List.mem_singleton.mp hmem]
  · intro hword
    refine ⟨word.map fun c => [c], by simp [← List.flatMap_def], ?_⟩
    intro piece hpiece
    obtain ⟨c, hc, rfl⟩ := List.mem_map.mp hpiece
    exact mem_oneOf.mpr ⟨c, hword c hc, rfl⟩

end

/-! ## Digits -/

/-- The digits of all bases are ASCII. -/
theorem declined_of_not_ascii {c : Char} (h : 128 ≤ c.toNat) :
    c.isDigit = false ∧ isDecimalDigit c = false ∧ isHexDigit c = false ∧
      isOctalDigit c = false ∧ isBinaryDigit c = false := by
  have hle (bound : Char) (hbound : bound.toNat < 128) : ¬ c ≤ bound := fun hc =>
    absurd (UInt32.le_iff_toNat_le.mp hc) (Nat.not_le.mpr (Nat.lt_of_lt_of_le hbound h))
  have hne (other : Char) (hother : other.toNat < 128) : c ≠ other := fun hc =>
    hle other hother (hc ▸ Char.le_refl c)
  have hdigit : c.isDigit = false := by
    have hnine : ¬ c.val ≤ 57 := hle '9' (by decide)
    simp [Char.isDigit, hnine]
  simp [isDecimalDigit, isHexDigit, isOctalDigit, isBinaryDigit, hdigit, hle 'f', hle 'F', hle '7',
    hne '0', hne '1', hne '_']

/-- A class of characters that holds no others than the listed ones is known by its ASCII part.  The
list is gone through by `all`, because deciding `∀ c ∈ chars` may go through all characters. -/
theorem class_iff {isMember : Char → Bool} {chars : List Char}
    (hlisted : ∀ code < 128, isMember (Char.ofNat code) = chars.contains (Char.ofNat code))
    (hchars : chars.all fun c => c.toNat < 128)
    (hdeclined : ∀ c : Char, 128 ≤ c.toNat → isMember c = false) (c : Char) :
    isMember c ↔ c ∈ chars := by
  by_cases hascii : c.toNat < 128
  · have hc := hlisted c.toNat hascii
    rw [Char.ofNat_toNat] at hc
    simp [hc]
  · have hc : c ∉ chars := fun hmem =>
      hascii (of_decide_eq_true (List.all_eq_true.mp hchars c hmem))
    simp [hdeclined c (by omega), hc]

theorem isDigit_iff (c : Char) : c.isDigit ↔ c ∈ "0123456789".toList :=
  class_iff (by decide +kernel) (by decide) (fun _ h => (declined_of_not_ascii h).1) c

theorem isDecimalDigit_iff (c : Char) : isDecimalDigit c ↔ c ∈ "0123456789_".toList :=
  class_iff (by decide +kernel) (by decide) (fun _ h => (declined_of_not_ascii h).2.1) c

theorem mem_digits {word : List Char} :
    word ∈ digits.matches' ↔ Number.beginsWithDigit word ∧ ∀ c ∈ word, isDecimalDigit c := by
  rw [digits, matches'_mul]
  cases word with
  | nil => simp [nil_notMem_oneOf_mul, Number.beginsWithDigit]
  | cons c tail =>
      simp only [cons_mem_oneOf_mul, mem_star_oneOf, ← isDigit_iff, ← isDecimalDigit_iff,
        Number.beginsWithDigit, List.head?_cons, Option.any_some, List.forall_mem_cons]
      constructor
      · rintro ⟨hc, htail⟩
        exact ⟨hc, by simp [isDecimalDigit, hc], htail⟩
      · rintro ⟨hc, -, htail⟩
        exact ⟨hc, htail⟩

theorem beginsWithDigit_of_prefix {word text : List Char} (hfront : word <+: text)
    (h : Number.beginsWithDigit word) : Number.beginsWithDigit text := by
  obtain ⟨behind, rfl⟩ := hfront
  cases word with
  | nil => simp [Number.beginsWithDigit] at h
  | cons c tail => exact h

theorem digitsLength_append {word : List Char} (behind : List Char)
    (h : ∀ c ∈ word, isDecimalDigit c) :
    Number.digitsLength (word ++ behind) = word.length + Number.digitsLength behind := by
  simp [Number.digitsLength, List.takeWhile_append_of_pos h]

theorem take_digitsLength (text : List Char) :
    text.take (Number.digitsLength text) = text.takeWhile isDecimalDigit :=
  (List.prefix_iff_eq_take.mp (List.takeWhile_prefix _)).symm

end NumberGrammar

/-! ## Longest words of compound expressions -/

namespace IsLongestPrefix

open NumberGrammar

variable {first second : Language Char} {text : List Char} {length : Nat}

/-- An alternative that has no longer words makes no difference. -/
theorem add (h : IsLongestPrefix second text length)
    (hle : ∀ word ∈ first, word <+: text → word.length ≤ length) :
    IsLongestPrefix (first + second) text length := by
  refine ⟨h.length_le, .inr h.take_mem, ?_⟩
  rintro word (hword | hword) hfront
  · exact hle word hword hfront
  · exact h.le_length word hword hfront

/-- The empty word is never missed. -/
theorem one_add (h : IsLongestPrefix second text length) :
    IsLongestPrefix (1 + second) text length :=
  h.add fun word hword _ => by
    rw [(Language.mem_one word).mp hword]
    exact Nat.zero_le length

theorem one (text : List Char) : IsLongestPrefix 1 text 0 := by
  refine ⟨Nat.zero_le _, rfl, fun word hword _ => ?_⟩
  rw [(Language.mem_one word).mp hword]
  exact Nat.le_refl 0

/-- Where an optional part cannot begin, or cannot go on, the empty word is the longest. -/
theorem one_add_oneOf_mul {chars : List Char}
    (h : ∀ c rest, text = c :: rest → c ∈ chars → ∀ word ∈ second, ¬ word <+: rest) :
    IsLongestPrefix (1 + (oneOf chars).matches' * second) text 0 := by
  rw [add_comm]
  refine (one text).add fun word hword hfront => ?_
  cases word with
  | nil => exact absurd hword nil_notMem_oneOf_mul
  | cons c tail =>
      obtain ⟨hc, htail⟩ := cons_mem_oneOf_mul.mp hword
      obtain ⟨behind, rfl⟩ := hfront
      exact absurd (List.prefix_append tail behind) (h c _ rfl hc tail htail)

/-- One character, and what is longest behind it. -/
theorem oneOf_mul {chars : List Char} {c : Char} (hc : c ∈ chars)
    (h : IsLongestPrefix second text length) :
    IsLongestPrefix ((oneOf chars).matches' * second) (c :: text) (1 + length) := by
  rw [Nat.add_comm]
  refine ⟨Nat.succ_le_succ h.length_le, cons_mem_oneOf_mul.mpr ⟨hc, h.take_mem⟩, ?_⟩
  intro word hword hfront
  cases word with
  | nil => exact absurd hword nil_notMem_oneOf_mul
  | cons d tail =>
      obtain ⟨-, htail⟩ := cons_mem_oneOf_mul.mp hword
      exact Nat.succ_le_succ (h.le_length tail htail (List.cons_prefix_cons.mp hfront).2)

/-- A run of digits taken to its end, and what is longest behind it.  A word that leaves a part of
the run can have nothing behind, as what follows begins with no character of a run. -/
theorem digits_mul (hdigit : Number.beginsWithDigit text)
    (hapart : ∀ c tail, c :: tail ∈ second → isDecimalDigit c = false)
    (h : IsLongestPrefix second (text.drop (Number.digitsLength text)) length) :
    IsLongestPrefix (digits.matches' * second) text (Number.digitsLength text + length) where
  length_le := by
    have hdigits := Number.digitsLength_le_length text
    have hlength := h.length_le
    rw [List.length_drop] at hlength
    omega
  take_mem := by
    rw [List.take_add]
    refine Language.mem_mul.mpr ⟨_, mem_digits.mpr ⟨?_, ?_⟩, _, h.take_mem, rfl⟩
    · have hpos := Number.digitsLength_pos hdigit
      rwa [Number.beginsWithDigit, List.head?_take, if_neg (by omega)]
    · rw [take_digitsLength]
      exact List.all_eq_true.mp (List.all_takeWhile)
  le_length := by
    intro word hword hfront
    obtain ⟨run, hrun, later, hlater, rfl⟩ := Language.mem_mul.mp hword
    obtain ⟨behind, rfl⟩ := hfront
    rw [List.append_assoc, digitsLength_append _ (mem_digits.mp hrun).2] at h ⊢
    rw [List.drop_append] at h
    cases later with
    | nil =>
        rw [List.append_nil]
        omega
    | cons c tail =>
        have hstop : Number.digitsLength (c :: tail ++ behind) = 0 := by
          simp [Number.digitsLength, hapart c tail hlater]
        rw [hstop] at h ⊢
        have hle := h.le_length _ hlater (by simp)
        rw [List.length_append]
        omega

theorem of_digits (hdigit : Number.beginsWithDigit text) :
    IsLongestPrefix digits.matches' text (Number.digitsLength text) := by
  simpa using digits_mul hdigit (fun c tail hmem => absurd hmem (List.cons_ne_nil c tail)) (one _)

end IsLongestPrefix

namespace NumberGrammar

open RegularExpression (matches'_add matches'_mul)

/-! ## Decimal numbers -/

section

variable {text : List Char}

/-- The digits of an exponent, with or without a sign. -/
theorem signed_eq :
    (optional (oneOf ['+', '-']) * digits).matches' =
      digits.matches' + (oneOf ['+', '-']).matches' * digits.matches' := by
  rw [matches'_mul, optional, matches'_add, add_mul, RegularExpression.matches'_epsilon, one_mul]

/-- No run of digits begins with a sign. -/
theorem signLength_of_beginsWithDigit (h : Number.beginsWithDigit text) :
    Number.signLength text = 0 := by
  cases text with
  | nil => rfl
  | cons c tail =>
      have hsign : (c == '+' || c == '-') = false := by
        by_contra hc
        rw [Bool.not_eq_false, Bool.or_eq_true, beq_iff_eq, beq_iff_eq] at hc
        rcases hc with rfl | rfl <;> simp [Number.beginsWithDigit] at h
      simp [Number.signLength, hsign]

theorem signLength_cons {c : Char} (tail : List Char) (hc : c ∈ ['+', '-']) :
    Number.signLength (c :: tail) = 1 := by
  have hsign : c = '+' ∨ c = '-' := by simpa using hc
  simp [Number.signLength, hsign]

/-- Digits with or without a sign are found behind the sign. -/
theorem beginsWithDigit_of_signed {word : List Char}
    (hword : word ∈ (optional (oneOf ['+', '-']) * digits).matches') (hfront : word <+: text) :
    Number.beginsWithDigit (text.drop (Number.signLength text)) := by
  rw [signed_eq] at hword
  rcases hword with hword | hword
  · have hbegin := beginsWithDigit_of_prefix hfront (mem_digits.mp hword).1
    rwa [signLength_of_beginsWithDigit hbegin]
  · cases word with
    | nil => exact absurd hword nil_notMem_oneOf_mul
    | cons c tail =>
        obtain ⟨hc, htail⟩ := cons_mem_oneOf_mul.mp hword
        obtain ⟨behind, rfl⟩ := hfront
        rw [List.cons_append, signLength_cons _ hc]
        exact beginsWithDigit_of_prefix (List.prefix_append tail behind) (mem_digits.mp htail).1

/-- A sign, if there is one, and the digits behind it. -/
theorem isLongestPrefix_signed
    (hdigit : Number.beginsWithDigit (text.drop (Number.signLength text))) :
    IsLongestPrefix (optional (oneOf ['+', '-']) * digits).matches' text
      (Number.signLength text + Number.digitsLength (text.drop (Number.signLength text))) := by
  rw [signed_eq]
  cases text with
  | nil => simp [Number.beginsWithDigit] at hdigit
  | cons c tail =>
      by_cases hsign : c ∈ ['+', '-']
      · rw [signLength_cons tail hsign] at hdigit ⊢
        refine ((IsLongestPrefix.of_digits hdigit).oneOf_mul hsign).add ?_
        intro word hword hfront
        have hbegin := beginsWithDigit_of_prefix hfront (mem_digits.mp hword).1
        have hlength := signLength_of_beginsWithDigit hbegin
        rw [signLength_cons _ hsign] at hlength
        exact absurd hlength Nat.one_ne_zero
      · have hlength : Number.signLength (c :: tail) = 0 := by
          have hc : c ≠ '+' ∧ c ≠ '-' := by simpa using hsign
          simp [Number.signLength, hc]
        rw [hlength, List.drop_zero] at hdigit
        rw [hlength, List.drop_zero, Nat.zero_add, add_comm]
        refine (IsLongestPrefix.of_digits hdigit).add ?_
        intro word hword hfront
        cases word with
        | nil => exact absurd hword nil_notMem_oneOf_mul
        | cons d others =>
            obtain ⟨rfl, -⟩ := List.cons_prefix_cons.mp hfront
            exact absurd (cons_mem_oneOf_mul.mp hword).1 hsign

theorem isLongestPrefix_exponent (text : List Char) :
    IsLongestPrefix (optional exponent).matches' text (Number.exponentLength text) := by
  rw [optional, matches'_add, RegularExpression.matches'_epsilon]
  cases text with
  | nil => exact IsLongestPrefix.one_add_oneOf_mul (by simp)
  | cons letter rest =>
      simp only [Number.exponentLength]
      split
      · next h =>
          rw [Nat.add_assoc]
          exact ((isLongestPrefix_signed h.2).oneOf_mul (by simpa using h.1)).one_add
      · next h =>
          refine IsLongestPrefix.one_add_oneOf_mul ?_
          intro c tail htext hc word hword hfront
          obtain ⟨rfl, rfl⟩ := List.cons.inj htext
          exact h ⟨by simpa using hc, beginsWithDigit_of_signed hword hfront⟩

theorem isLongestPrefix_fraction (text : List Char) :
    IsLongestPrefix (optional fraction).matches' text (Number.fractionLength text) := by
  rw [optional, matches'_add, RegularExpression.matches'_epsilon]
  cases text with
  | nil => exact IsLongestPrefix.one_add_oneOf_mul (by simp)
  | cons point rest =>
      simp only [Number.fractionLength]
      split
      · next h =>
          have hapart (c : Char) (tail : List Char)
              (hmem : c :: tail ∈ (optional exponent).matches') : isDecimalDigit c = false := by
            rcases hmem with hmem | hmem
            · exact absurd hmem (List.cons_ne_nil c tail)
            · have hc : c = 'e' ∨ c = 'E' := by simpa using (cons_mem_oneOf_mul.mp hmem).1
              rcases hc with rfl | rfl <;> rfl
          rw [Nat.add_assoc]
          exact (((isLongestPrefix_exponent _).digits_mul h.2 hapart).oneOf_mul
            (by simpa using h.1)).one_add
      · next h =>
          refine IsLongestPrefix.one_add_oneOf_mul ?_
          intro c tail htext hc word hword hfront
          obtain ⟨rfl, rfl⟩ := List.cons.inj htext
          obtain ⟨run, hrun, later, -, rfl⟩ := Language.mem_mul.mp hword
          have hbegin := beginsWithDigit_of_prefix ((List.prefix_append run later).trans hfront)
            (mem_digits.mp hrun).1
          exact h ⟨by simpa using hc, hbegin⟩

theorem isLongestPrefix_decimal (hdigit : Number.beginsWithDigit text) :
    IsLongestPrefix decimal.matches' text (Number.decimalLength text) := by
  refine (isLongestPrefix_fraction _).digits_mul hdigit ?_
  rintro c tail (hmem | hmem)
  · exact absurd hmem (List.cons_ne_nil c tail)
  · have hc : c = '.' := by simpa using (cons_mem_oneOf_mul.mp hmem).1
    rw [hc]
    rfl

end

/-! ## Numbers with a base letter -/

section

variable {text : List Char}

/-- One or more members of a class. -/
theorem isLongestPrefix_many {isMember : Char → Bool} {chars : List Char}
    (hclass : ∀ c, isMember c ↔ c ∈ chars) (hhead : text.head?.any isMember) :
    IsLongestPrefix (many (oneOf chars)).matches' text (text.takeWhile isMember).length := by
  cases text with
  | nil => simp at hhead
  | cons c tail =>
      have hc : isMember c := hhead
      have hlength : ((c :: tail).takeWhile isMember).length =
          1 + (tail.takeWhile isMember).length := by
        rw [List.takeWhile_cons_of_pos hc, List.length_cons, Nat.add_comm]
      rw [hlength]
      refine IsLongestPrefix.oneOf_mul ((hclass c).mp hc) ⟨?_, ?_, ?_⟩
      · exact (List.takeWhile_prefix isMember).length_le
      · rw [mem_star_oneOf, ← List.prefix_iff_eq_take.mp (List.takeWhile_prefix isMember)]
        exact fun d hd => (hclass d).mp (List.all_eq_true.mp List.all_takeWhile d hd)
      · rintro word hword ⟨behind, rfl⟩
        rw [mem_star_oneOf] at hword
        rw [List.takeWhile_append_of_pos fun d hd => (hclass d).mpr (hword d hd),
          List.length_append]
        omega

/-- A base letter with the class of its digits and the list of them. -/
inductive IsBase : Char → (Char → Bool) → List Char → Prop
  | hex : IsBase 'x' isHexDigit "0123456789abcdefABCDEF_".toList
  | octal : IsBase 'o' isOctalDigit "01234567_".toList
  | binary : IsBase 'b' isBinaryDigit "01_".toList

namespace IsBase

variable {letter : Char} {isDigit : Char → Bool} {chars : List Char}

theorem iff_mem (h : IsBase letter isDigit chars) (c : Char) : isDigit c ↔ c ∈ chars := by
  cases h with
  | hex =>
      exact class_iff (by decide +kernel) (by decide) (fun _ h => (declined_of_not_ascii h).2.2.1) c
  | octal =>
      exact class_iff (by decide +kernel) (by decide)
        (fun _ h => (declined_of_not_ascii h).2.2.2.1) c
  | binary =>
      exact class_iff (by decide +kernel) (by decide)
        (fun _ h => (declined_of_not_ascii h).2.2.2.2) c

theorem baseDigit? (h : IsBase letter isDigit chars) : Number.baseDigit? letter = some isDigit := by
  cases h <;> rfl

/-- A base letter is no part of a decimal number. -/
theorem not_decimal (h : IsBase letter isDigit chars) :
    isDecimalDigit letter = false ∧ letter ≠ '.' := by
  cases h <;> exact ⟨rfl, by decide⟩

end IsBase

theorem exists_isBase {letter : Char} {isDigit : Char → Bool}
    (h : Number.baseDigit? letter = some isDigit) : ∃ chars, IsBase letter isDigit chars := by
  unfold Number.baseDigit? at h
  split at h
  · next hletter =>
      obtain rfl := Option.some.inj h
      exact ⟨_, hletter ▸ IsBase.hex⟩
  · split at h
    · next hletter =>
        obtain rfl := Option.some.inj h
        exact ⟨_, hletter ▸ IsBase.octal⟩
    · split at h
      · next hletter =>
          obtain rfl := Option.some.inj h
          exact ⟨_, hletter ▸ IsBase.binary⟩
      · simp at h

/-- The scanner needs a digit behind the letter of a base. -/
theorem basedLength?_eq_some_iff {length : Nat} :
    Number.basedLength? text = some length ↔
      ∃ letter isDigit chars rest, IsBase letter isDigit chars ∧ text = '0' :: letter :: rest ∧
        rest.head?.any isDigit ∧ length = 2 + (rest.takeWhile isDigit).length := by
  constructor
  · intro h
    unfold Number.basedLength? at h
    split at h
    · next zero letter rest =>
        split at h
        · next hzero =>
            split at h
            · simp at h
            · next isDigit hletter =>
                obtain ⟨chars, hbase⟩ := exists_isBase hletter
                split at h
                · next hhead =>
                    exact ⟨letter, isDigit, chars, rest, hbase, by rw [hzero], hhead,
                      (Option.some.inj h).symm⟩
                · simp at h
        · simp at h
    · simp at h
  · rintro ⟨letter, isDigit, chars, rest, hbase, rfl, hhead, rfl⟩
    simp only [Number.basedLength?, hbase.baseDigit?, if_true, hhead]

theorem mem_inBase {word : List Char} :
    word ∈ inBase.matches' ↔
      ∃ letter isDigit chars, IsBase letter isDigit chars ∧
        word ∈ (based letter chars).matches' := by
  rw [inBase, matches'_add, matches'_add, Language.mem_add, Language.mem_add]
  constructor
  · rintro ((hword | hword) | hword)
    · exact ⟨_, _, _, .hex, hword⟩
    · exact ⟨_, _, _, .octal, hword⟩
    · exact ⟨_, _, _, .binary, hword⟩
  · rintro ⟨letter, isDigit, chars, hbase, hword⟩
    cases hbase with
    | hex => exact .inl (.inl hword)
    | octal => exact .inl (.inr hword)
    | binary => exact .inr hword

/-- Where a word with a base letter stands, the scanner finds one that is at least as long. -/
theorem basedLength?_of_mem_inBase {word : List Char} (hword : word ∈ inBase.matches')
    (hfront : word <+: text) :
    ∃ length, Number.basedLength? text = some length ∧ word.length ≤ length := by
  obtain ⟨letter, isDigit, chars, hbase, hword⟩ := mem_inBase.mp hword
  obtain ⟨behind, rfl⟩ := hfront
  match word, hword with
  | [], hword => exact absurd hword nil_notMem_oneOf_mul
  | [zero], hword => exact absurd (cons_mem_oneOf_mul.mp hword).2 nil_notMem_oneOf_mul
  | [zero, mark], hword =>
      have htail := (cons_mem_oneOf_mul.mp hword).2
      exact absurd (cons_mem_oneOf_mul.mp htail).2 nil_notMem_oneOf_mul
  | zero :: mark :: c :: tail, hword =>
      obtain ⟨hzero, htail⟩ := cons_mem_oneOf_mul.mp hword
      obtain ⟨hmark, hdigits⟩ := cons_mem_oneOf_mul.mp htail
      obtain rfl := List.mem_singleton.mp hzero
      obtain rfl := List.mem_singleton.mp hmark
      have hhead : (c :: tail ++ behind).head?.any isDigit :=
        (hbase.iff_mem c).mpr (cons_mem_oneOf_mul.mp hdigits).1
      have hle := (isLongestPrefix_many hbase.iff_mem hhead).le_length _ hdigits
        (List.prefix_append _ _)
      refine ⟨_, basedLength?_eq_some_iff.mpr
        ⟨_, _, _, c :: tail ++ behind, hbase, rfl, hhead, rfl⟩, ?_⟩
      simp only [List.length_cons] at hle ⊢
      omega

/-- What the scanner finds behind a base letter is longest among all numbers with such a letter, and
the decimal branch would stop behind the zero. -/
theorem isLongestPrefix_inBase {length : Nat} (h : Number.basedLength? text = some length) :
    IsLongestPrefix inBase.matches' text length ∧ Number.decimalLength text ≤ length := by
  have hle := (Number.basedLength?_bounds h).2
  have hlongest (word : List Char) (hword : word ∈ inBase.matches') (hfront : word <+: text) :
      word.length ≤ length := by
    obtain ⟨found, hfound, hword⟩ := basedLength?_of_mem_inBase hword hfront
    rw [h] at hfound
    rwa [Option.some.inj hfound]
  obtain ⟨letter, isDigit, chars, rest, hbase, rfl, hhead, rfl⟩ := basedLength?_eq_some_iff.mp h
  constructor
  · have htake := (((isLongestPrefix_many hbase.iff_mem hhead).oneOf_mul
      (List.mem_singleton_self letter)).oneOf_mul (List.mem_singleton_self '0')).take_mem
    rw [← Nat.add_assoc] at htake
    exact ⟨hle, mem_inBase.mpr ⟨letter, isDigit, chars, hbase, htake⟩, hlongest⟩
  · obtain ⟨hdigit, hpoint⟩ := hbase.not_decimal
    have hrun : Number.digitsLength ('0' :: letter :: rest) = 1 := by
      simp [Number.digitsLength, hdigit, show isDecimalDigit '0' = true from rfl]
    have hstop : Number.fractionLength (letter :: rest) = 0 := by
      simp [Number.fractionLength, hpoint]
    rw [Number.decimalLength, hrun, List.drop_one, List.tail_cons, hstop]
    omega

/-! ## All numbers -/

theorem beginsWithDigit_of_mem_number {word : List Char} (h : word ∈ number.matches') :
    Number.beginsWithDigit word := by
  rw [number, RegularExpression.matches'_add] at h
  rcases h with h | h
  · obtain ⟨length, hlength, -⟩ := basedLength?_of_mem_inBase h (List.prefix_refl word)
    obtain ⟨letter, isDigit, chars, rest, -, rfl, -⟩ := basedLength?_eq_some_iff.mp hlength
    rfl
  · obtain ⟨run, hrun, later, -, rfl⟩ := Language.mem_mul.mp h
    exact beginsWithDigit_of_prefix (List.prefix_append run later) (mem_digits.mp hrun).1

/-- The scanner finds the longest number at the head of the text. -/
theorem isLongestPrefix_number {length : Nat} (h : Number.length? text = some length) :
    IsLongestPrefix number.matches' text length := by
  rw [number, matches'_add]
  unfold Number.length? at h
  split at h
  · next hdigit =>
      obtain rfl := Option.some.inj h
      cases hbased : Number.basedLength? text with
      | none =>
          refine (isLongestPrefix_decimal hdigit).add fun word hword hfront => ?_
          obtain ⟨length, hlength, -⟩ := basedLength?_of_mem_inBase hword hfront
          simp [hbased] at hlength
      | some length =>
          obtain ⟨hlongest, hshort⟩ := isLongestPrefix_inBase hbased
          rw [add_comm]
          refine hlongest.add fun word hword hfront => ?_
          exact Nat.le_trans ((isLongestPrefix_decimal hdigit).le_length word hword hfront) hshort
  · simp at h

end

end NumberGrammar

/-! ## Numbers in code -/

/-- No other rule of code begins with a digit. -/
theorem Rule.longest_digit {cursor : Cursor} {mode : Mode} {options : Options} {c : Char}
    {tail : List Char} (hrest : cursor.rest = c :: tail) (hdigit : c.isDigit) :
    longest (fun rule => answer rule ⟨cursor, mode, options⟩) code =
      Scan.number ⟨cursor, mode, options⟩ := by
  have hdigits : "0123456789".toList.all fun c => code.filter (canBegin c) = [.number] := by
    decide +kernel
  have hcode : code.filter (canBegin c) = [.number] := of_decide_eq_true
    (List.all_eq_true.mp hdigits c ((NumberGrammar.isDigit_iff c).mp hdigit))
  rw [longest_code _ _ hrest, hcode, longest_cons, longest_nil, Match.prefer_none]
  rfl

/-- Code emits every number that the scanner finds. -/
theorem classify_number {cursor : Cursor} {mode : Mode} {options : Options} {length : Nat}
    (hmode : mode.isCode) (h : Number.length? cursor.rest = some length) :
    classify cursor mode options = .emit (Match.plain .number length) := by
  have hdigit : Number.beginsWithDigit cursor.rest := by
    by_contra hdigit
    simp [Number.length?, hdigit] at h
  cases hrest : cursor.rest with
  | nil => simp [hrest, Number.beginsWithDigit] at hdigit
  | cons c tail =>
      rw [hrest] at hdigit
      refine classify_of_isCode hmode (by simp [hrest]) ?_ (by simp [Match.plain])
      simp [classify, Mode.id, Rule.table, Rule.longest_digit hrest hdigit, Scan.number, Scan.rest,
        h]

/-- **Numbers are the longest words of their grammar.**  The rule of numbers answers if and only if
a digit is next, whatever the mode, and then takes the longest word of the grammar at the head of
the text.  In code, interpolated or not, that answer is what is emitted. -/
theorem scan_number_longest_word (cursor : Cursor) (mode : Mode) (options : Options) :
    (Scan.number ⟨cursor, mode, options⟩ = none ↔ ¬ cursor.rest.head?.any Char.isDigit) ∧
      ∀ found, Scan.number ⟨cursor, mode, options⟩ = some found →
        found = Match.plain .number found.length ∧
          IsLongestPrefix NumberGrammar.number.matches' cursor.rest found.length ∧
          (mode.isCode → classify cursor mode options = .emit found) := by
  refine ⟨?_, fun found hfound => ?_⟩
  · cases hdigit : cursor.rest.head?.any Char.isDigit <;>
      simp [Scan.number, Scan.rest, Number.length?, Number.beginsWithDigit, hdigit]
  · obtain ⟨length, hlength, rfl⟩ := Option.map_eq_some_iff.mp hfound
    exact ⟨rfl, NumberGrammar.isLongestPrefix_number hlength,
      fun hmode => classify_number hmode hlength⟩

/-- The sign behind `e` finds no digit, so the whole exponent is given back; what stands behind the
number has a digit again, which does not help. -/
theorem scan_number_longest_word_gives_back :
    ∃ found, Scan.number ⟨Cursor.ofText "1_0.5e+x7".toList, .interpolation 2, {}⟩ = some found ∧
      found = Match.plain .number 5 ∧
      IsLongestPrefix NumberGrammar.number.matches' "1_0.5e+x7".toList 5 ∧
      classify (Cursor.ofText "1_0.5e+x7".toList) (.interpolation 2) {} = .emit found := by
  have hnumber : Scan.number ⟨Cursor.ofText "1_0.5e+x7".toList, .interpolation 2, {}⟩ =
      some (Match.plain .number 5) := by decide +kernel
  obtain ⟨-, hlongest, hcode⟩ := (scan_number_longest_word (Cursor.ofText "1_0.5e+x7".toList)
    (.interpolation 2) {}).2 _ hnumber
  exact ⟨_, hnumber, rfl, hlongest, hcode rfl⟩

end ElixirLexer
