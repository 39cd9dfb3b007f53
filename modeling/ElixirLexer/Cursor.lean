import ElixirLexer.Fault

/-!
# Cursors

A cursor is a place in a text: the characters behind it, nearest first, and those ahead of it.
Looking ahead never fails, it only finds less near the end.  Moving beyond the end is a fault.
-/

namespace ElixirLexer

/-- A place in a text. -/
structure Cursor where
  /-- The characters already passed, nearest first. -/
  before : List Char
  /-- The characters still ahead. -/
  rest : List Char
  deriving DecidableEq

namespace Cursor

/-- The start of a text. -/
def ofText (text : List Char) : Cursor :=
  ⟨[], text⟩

/-- The place at a given offset. -/
def atOffset (text : List Char) (offset : Nat) : Except Fault Cursor :=
  if offset ≤ text.length then
    .ok ⟨(text.take offset).reverse, text.drop offset⟩
  else
    .error (.pastEnd offset text.length)

/-- The whole text, wherever the cursor is. -/
def text (cursor : Cursor) : List Char :=
  cursor.before.reverse ++ cursor.rest

/-- Number of characters behind the cursor. -/
def offset (cursor : Cursor) : Nat :=
  cursor.before.length

/-- Number of characters ahead. -/
def remaining (cursor : Cursor) : Nat :=
  cursor.rest.length

/-- Whether nothing is ahead. -/
def atEnd (cursor : Cursor) : Bool :=
  cursor.rest.isEmpty

/-- The next `count` characters, or as many as there are. -/
def peek (cursor : Cursor) (count : Nat) : List Char :=
  cursor.rest.take count

/-- The character `ahead` places on. -/
def nth? (cursor : Cursor) (ahead : Nat) : Option Char :=
  cursor.rest[ahead]?

/-- The next character. -/
def first? (cursor : Cursor) : Option Char :=
  cursor.rest.head?

/-- The character just behind the cursor. -/
def previous? (cursor : Cursor) : Option Char :=
  cursor.before.head?

/-- Whether the text ahead begins with `pattern`. -/
def startsWith (cursor : Cursor) (pattern : List Char) : Bool :=
  pattern.isPrefixOf cursor.rest

/-- Whether the cursor is at the start of the text or just behind a newline or carriage return. -/
def atLineStart (cursor : Cursor) : Bool :=
  match cursor.before with
  | [] => true
  | c :: _ => c == '\n' || c == '\r'

/-- Moves over `count` characters. -/
def advance (cursor : Cursor) (count : Nat) : Except Fault Cursor :=
  if count ≤ cursor.remaining then
    .ok ⟨(cursor.rest.take count).reverse ++ cursor.before, cursor.rest.drop count⟩
  else
    .error (.overrun count cursor.offset cursor.text.length)

/-! ## Text and offset -/

@[simp] theorem text_ofText (text : List Char) : (ofText text).text = text := by
  simp [ofText, Cursor.text]

@[simp] theorem offset_ofText (text : List Char) : (ofText text).offset = 0 := rfl

theorem offset_add_remaining (cursor : Cursor) :
    cursor.offset + cursor.remaining = cursor.text.length := by
  simp [offset, remaining, text]

/-- A place can be asked for up to the end of the text, the end included. -/
theorem atOffset_eq_error_iff {text : List Char} {offset : Nat} {fault : Fault} :
    atOffset text offset = .error fault ↔
      text.length < offset ∧ fault = .pastEnd offset text.length := by
  unfold atOffset
  split
  · next hle => simp; omega
  · next hlt =>
      constructor
      · intro h
        exact ⟨by omega, (Except.error.inj h).symm⟩
      · rintro ⟨_, rfl⟩
        rfl

/-- The place asked for is the place found. -/
theorem text_offset_of_atOffset {text : List Char} {offset : Nat} {cursor : Cursor}
    (h : atOffset text offset = .ok cursor) : cursor.text = text ∧ cursor.offset = offset := by
  unfold atOffset at h
  split at h
  · next hle =>
      obtain rfl := Except.ok.inj h
      constructor
      · simp [Cursor.text]
      · simp [Cursor.offset, hle]
  · simp at h

/-- Moving keeps the text and adds to the offset. -/
theorem text_offset_of_advance {cursor moved : Cursor} {count : Nat}
    (h : cursor.advance count = .ok moved) :
    moved.text = cursor.text ∧ moved.offset = cursor.offset + count := by
  unfold advance at h
  split at h
  · next hle =>
      obtain rfl := Except.ok.inj h
      constructor
      · simp [text]
      · simp only [remaining] at hle
        simp [offset, hle, Nat.add_comm]
  · simp at h

end Cursor

end ElixirLexer
