import Tokenizer.Cursor
import Tokenizer.Word
import Tokenizer.Token.Diagnosis

/-!
# Lexing

A lexer reads a source from left to right. Blanks separate tokens and are skipped; a symbol is a
token by itself; every other run of bytes up to a blank or a symbol is a word, and what the word is
follows from its characters. A dot that follows another character of a word does not end it, so that
`3.14` is one word. Lexing never fails: what is no legal word becomes an illegal token, and past the
end of the source every token is the end of the input.

* `Lexer.nextToken_eof_or_lt`: a token that is not the end of the input brings the lexer nearer to
  the end of its source, so that `Lexer.drain` and `Lexer.collect` end.
-/

namespace Tokenizer

/-- Whether a byte separates tokens without being one. -/
def isBlank (b : UInt8) : Bool :=
  b == ' '.toUInt8 || b == '\t'.toUInt8 || b == '\r'.toUInt8 || b == '\n'.toUInt8

/-- Whether a byte ends the word before it. -/
def isDelimiter (b : UInt8) : Bool :=
  isBlank b || b != Symbol.dot.byte && (Symbol.ofByte? b).isSome

/-- A position in a source, and whether the walk over its tokens has come to the end. -/
structure Lexer where
  cursor : Cursor
  /-- Set once `next?` has given the end of the input. -/
  finished : Bool

namespace Lexer

/-- The lexer at the start of a source. -/
def ofString (source : String) : Lexer :=
  ⟨.ofString source, false⟩

/-- The word at the cursor, and the cursor behind it. -/
def scanWord (c : Cursor) : String × Cursor :=
  let stop := c.skipWhile (!isDelimiter ·)
  ((stop.sliceFrom? c.offset).getD "", stop)

/-- The token at a cursor that stands on a byte that is not blank, and the cursor behind it. -/
def scanToken (c : Cursor) : Token × Cursor :=
  match Symbol.ofByte? c.current with
  | some s => (⟨.symbol s, s.char.toString⟩, c.bump)
  | none =>
    let (word, stop) := scanWord c
    (⟨Word.classify word, word⟩, stop)

/-- The next token, which past the last one is the end of the input. -/
def nextToken (l : Lexer) : Token × Lexer :=
  let c := l.cursor.skipWhile isBlank
  if c.atEnd then (.eof, { l with cursor := c })
  else
    let (token, stop) := scanToken c
    (token, { l with cursor := stop })

/-! ### Progress -/

theorem remaining_scanToken_lt {c : Cursor} (h : c.atEnd = false) (hb : isBlank c.current = false) :
    (scanToken c).2.remaining < c.remaining := by
  unfold scanToken
  split
  · exact Cursor.remaining_bump_lt h
  · next hs => exact Cursor.remaining_skipWhile_lt h (by simp [isDelimiter, hb, hs])

theorem remaining_nextToken_le (l : Lexer) :
    l.nextToken.2.cursor.remaining ≤ l.cursor.remaining := by
  have hle := Cursor.remaining_skipWhile_le isBlank l.cursor
  unfold nextToken
  simp only
  split
  · exact hle
  · next he =>
    have hb := (Cursor.skipWhile_stops isBlank l.cursor).resolve_left he
    exact Nat.le_of_lt (Nat.lt_of_lt_of_le (remaining_scanToken_lt (by simpa using he) hb) hle)

/-- A token that is not the end of the input brings the lexer nearer to the end. -/
theorem nextToken_eof_or_lt (l : Lexer) :
    l.nextToken.1.isEof = true ∨ l.nextToken.2.cursor.remaining < l.cursor.remaining := by
  unfold nextToken
  simp only
  split
  · exact .inl rfl
  · next he =>
    have hb := (Cursor.skipWhile_stops isBlank l.cursor).resolve_left he
    exact .inr (Nat.lt_of_lt_of_le (remaining_scanToken_lt (by simpa using he) hb)
      (Cursor.remaining_skipWhile_le isBlank l.cursor))

@[simp] theorem finished_nextToken (l : Lexer) : l.nextToken.2.finished = l.finished := by
  unfold nextToken
  simp only
  split <;> rfl

/-! ### All tokens -/

/-- The tokens from here to the end of the input, which is the last of them. -/
def drain (l : Lexer) : List Token :=
  let r := l.nextToken
  if r.1.isEof then [r.1] else r.1 :: r.2.drain
termination_by l.cursor.remaining
decreasing_by exact (nextToken_eof_or_lt l).resolve_left ‹_›

/-- The tokens from here to the end of the input, and what there is to say about them. -/
def tokenize (l : Lexer) : List Token × Findings :=
  let tokens := l.drain
  (tokens, .ofTokens tokens)

/-! ### Walking over the tokens -/

/-- The next token of a walk, which gives the end of the input once and then nothing. -/
def next? (l : Lexer) : Option Token × Lexer :=
  if l.finished then (none, l)
  else
    let r := l.nextToken
    (some r.1, { r.2 with finished := r.1.isEof })

/-- What bounds the rest of a walk. -/
def pending (l : Lexer) : Nat :=
  l.cursor.remaining + if l.finished then 0 else 1

theorem pending_next?_lt {l : Lexer} (h : l.finished = false) : l.next?.2.pending < l.pending := by
  have hle := remaining_nextToken_le l
  rcases nextToken_eof_or_lt l with he | hlt <;> grind [next?, pending]

/-- The rest of a walk, and the lexer after it. -/
def collect (l : Lexer) : List Token × Lexer :=
  if _ : l.finished = false then
    let r := l.next?
    let rest := r.2.collect
    (r.1.toList ++ rest.1, rest.2)
  else ([], l)
termination_by l.pending
decreasing_by exact pending_next?_lt ‹_›

end Lexer

end Tokenizer
