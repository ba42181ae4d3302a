/-!
# Cursors

A cursor reads a source one byte at a time. It holds the byte it stands on, the offset of that byte
and the offset of the next byte to read; at the end of the source the byte is `0`, both offsets are
the length of the source, and further steps change nothing. A NUL in the source is not the end: only
the offset tells.

* `Cursor.remaining_bump_lt`: a step that does not stand at the end brings the cursor nearer to it.
* `Cursor.remaining_skipWhile_le`: skipping never moves the cursor away from the end.
* `Cursor.skipWhile_stops`: skipping stops at the end or at a byte that is not to be skipped.
-/

namespace Tokenizer

/-- A position in a source, with the byte that stands there. -/
structure Cursor where
  source : String
  /-- The offset of the byte the cursor stands on. -/
  offset : Nat
  /-- The offset of the next byte to read. -/
  next : Nat
  /-- The byte the cursor stands on, `0` at the end. -/
  current : UInt8

namespace Cursor

/-- The length of the source in bytes. -/
def size (c : Cursor) : Nat :=
  c.source.utf8ByteSize

/-- Whether every byte has been read. -/
def atEnd (c : Cursor) : Bool :=
  c.size ≤ c.offset

/-- One byte on. -/
def bump (c : Cursor) : Cursor :=
  if h : c.next < c.source.utf8ByteSize then
    { c with
      current := c.source.getUTF8Byte ⟨c.next⟩ h
      offset := c.next
      next := c.next + 1 }
  else { c with current := 0, offset := c.size, next := c.size }

/-- The cursor that stands on the first byte of a source. -/
def ofString (source : String) : Cursor :=
  bump ⟨source, 0, 0, 0⟩

/-! ### Skipping -/

/-- The number of steps that can still change the cursor. -/
def remaining (c : Cursor) : Nat :=
  (c.size - c.next) + if c.atEnd then 0 else 1

@[simp] theorem source_bump (c : Cursor) : c.bump.source = c.source := by
  unfold bump; split <;> rfl

theorem remaining_bump_lt {c : Cursor} (h : c.atEnd = false) : c.bump.remaining < c.remaining := by
  have h' : c.offset < c.source.utf8ByteSize := by simpa [atEnd, size] using of_decide_eq_false h
  unfold bump
  split <;> simp [remaining, atEnd, size] <;> grind

/-- On past the bytes that satisfy `p`, up to the first that does not or to the end. -/
def skipWhile (p : UInt8 → Bool) (c : Cursor) : Cursor :=
  if _ : c.atEnd = false ∧ p c.current = true then c.bump.skipWhile p else c
termination_by c.remaining
decreasing_by exact remaining_bump_lt (And.left ‹_›)

theorem remaining_skipWhile_le (p : UInt8 → Bool) (c : Cursor) :
    (c.skipWhile p).remaining ≤ c.remaining := by
  fun_induction skipWhile p c with
  | case1 c h ih => exact Nat.le_trans ih (Nat.le_of_lt (remaining_bump_lt h.1))
  | case2 c h => exact Nat.le_refl _

/-- Skipping from a byte that is to be skipped brings the cursor nearer to the end. -/
theorem remaining_skipWhile_lt {p : UInt8 → Bool} {c : Cursor} (h : c.atEnd = false)
    (hp : p c.current = true) : (c.skipWhile p).remaining < c.remaining := by
  rw [skipWhile, dif_pos ⟨h, hp⟩]
  exact Nat.lt_of_le_of_lt (remaining_skipWhile_le p _) (remaining_bump_lt h)

/-- Skipping stops at the end or at a byte that is not to be skipped. -/
theorem skipWhile_stops (p : UInt8 → Bool) (c : Cursor) :
    (c.skipWhile p).atEnd = true ∨ p (c.skipWhile p).current = false := by
  fun_induction skipWhile p c with
  | case1 c h ih => exact ih
  | case2 c h =>
    cases he : c.atEnd
    · exact .inr (by simpa [he] using h)
    · exact .inl rfl

/-! ### Slices -/

/-- The text from the byte offset `start` up to the cursor. There is none if `start` lies past the
cursor, or if one of the two offsets lies inside a character. -/
def sliceFrom? (c : Cursor) (start : Nat) : Option String := do
  let first ← c.source.pos? ⟨start⟩
  let last ← c.source.pos? ⟨c.offset⟩
  if first ≤ last then some (c.source.extract first last) else none

end Cursor

end Tokenizer
