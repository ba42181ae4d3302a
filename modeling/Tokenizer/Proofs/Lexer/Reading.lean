import Tokenizer.Proofs.Cursor.Seek
import Tokenizer.Proofs.Lexer.Characters

/-!
# The lexer over characters

A lexer that stands between two characters (`between`) goes on to stand between two characters, and
what it reads on the way is read off the characters ahead.

* `nextToken_gap`, `nextToken_symbol`, `nextToken_word`: one step, for each shape that the text ahead
  may have.  The slice of a word is there, so that the word is the token's literal.
* `nextToken_between`: one step, as a step of `Text.tokens`.
* `drain_between`: the tokens up to the end of the input are those of the text ahead.
-/

namespace Tokenizer

open Text

/-! ### No token of a text ends the input -/

/-- The kinds that a form may give to a word. -/
theorem Word.Form.kind?_cases {w : String} {f : Form} {k : Kind} (h : f.kind? w = some k) :
    (∃ k', k = .keyword k') ∨ k = .identifier ∨ k = .intLiteral ∨ k = .floatLiteral := by
  cases f with
  | keyword =>
      obtain ⟨k', -, rfl⟩ := Option.map_eq_some_iff.mp h
      exact .inl ⟨k', rfl⟩
  | identifier | integer | float =>
      obtain ⟨-, e⟩ := Option.ite_none_right_eq_some.mp h
      cases e
      simp

/-- The kinds that a word may have. -/
theorem Word.classify_cases (w : String) :
    (∃ k, classify w = .keyword k) ∨ classify w = .identifier ∨ classify w = .intLiteral ∨
      classify w = .floatLiteral ∨ classify w = .illegal := by
  unfold classify classifyBy
  cases e : [Form.keyword, .identifier, .integer, .float].findSome? (Form.kind? w) with
  | none => simp
  | some k =>
      obtain ⟨f, -, hf⟩ := List.exists_of_findSome?_eq_some e
      rw [Option.getD_some]
      rcases Form.kind?_cases hf with h | h | h | h <;> simp [h]

@[simp] theorem Token.isEof_eof : Token.eof.isEof = true := rfl

@[simp] theorem Token.isEof_ofSymbol (s : Symbol) : (Token.ofSymbol s).isEof = false := rfl

@[simp] theorem Token.isEof_ofWord (w : List Char) : (Token.ofWord w).isEof = false := by
  unfold Token.isEof Token.ofWord
  rcases Word.classify_cases (String.ofList w) with ⟨k, h⟩ | h | h | h | h <;> rw [h] <;> rfl

namespace Lexer

/-- The lexer behind the characters `before` and in front of the characters `ahead`. -/
def between (before ahead : List Char) (finished : Bool) : Lexer :=
  ⟨.between before ahead, finished⟩

variable {before : List Char} {finished : Bool}

theorem ofString_eq_between (s : String) : ofString s = between [] s.toList false := by
  rw [ofString, Cursor.ofString_eq_between, between]

/-! ### What a step meets -/

theorem skipWhile_gap (before : List Char) {g r : List Char} (hg : IsGap g)
    (hr : ∀ c ∈ r.head?, isBlankChar c = false) :
    (Cursor.between before (g ++ r)).skipWhile isBlank = .between (before ++ g) r := by
  rw [Cursor.skipWhile_between agree_isBlank, takeWhile_append_eq_left hg hr,
    dropWhile_append_eq_right hg hr]

theorem skipWhile_gap_end (before : List Char) {g : List Char} (hg : IsGap g) :
    (Cursor.between before g).skipWhile isBlank = .between (before ++ g) [] := by
  simpa using skipWhile_gap before (r := []) hg

theorem skipWhile_gap_symbol (before : List Char) {g : List Char} (hg : IsGap g) (s : Symbol)
    (r : List Char) : (Cursor.between before (g ++ s.char :: r)).skipWhile isBlank =
      .between (before ++ g) (s.char :: r) := by
  refine skipWhile_gap before hg fun c h => ?_
  cases h
  exact isBlankChar_symbol s

theorem skipWhile_gap_word (before : List Char) {g w : List Char} (hg : IsGap g) (hw : IsWord w)
    (r : List Char) : (Cursor.between before (g ++ (w ++ r))).skipWhile isBlank =
      .between (before ++ g) (w ++ r) := by
  obtain ⟨c, w, rfl⟩ := List.exists_cons_of_ne_nil hw.ne_nil
  refine skipWhile_gap before hg fun d h => ?_
  cases h
  exact isBlankChar_of_isDelimiterChar (hw.no_delimiter c List.mem_cons_self)

theorem skipWhile_word (before : List Char) {w r : List Char} (hw : IsWord w) (hr : Stops r) :
    (Cursor.between before (w ++ r)).skipWhile (!isDelimiter ·) = .between (before ++ w) r := by
  rw [Cursor.skipWhile_between agree_isDelimiter.not, takeWhile_word hw hr, dropWhile_word hw hr]

theorem ofByte?_current_symbol (before : List Char) (s : Symbol) (r : List Char) :
    Symbol.ofByte? (Cursor.between before (s.char :: r)).current = some s := by
  rw [Symbol.ofByte?_of_mem Cursor.current_between_mem, Symbol.ofChar?_char]

theorem ofByte?_current_word (before : List Char) {w : List Char} (hw : IsWord w) (r : List Char) :
    Symbol.ofByte? (Cursor.between before (w ++ r)).current = none := by
  obtain ⟨c, w, rfl⟩ := List.exists_cons_of_ne_nil hw.ne_nil
  rw [List.cons_append, Symbol.ofByte?_of_mem Cursor.current_between_mem, hw.head_ofChar?]

theorem atEnd_word (before : List Char) {w : List Char} (hw : IsWord w) (r : List Char) :
    (Cursor.between before (w ++ r)).atEnd = false := by
  obtain ⟨c, w, rfl⟩ := List.exists_cons_of_ne_nil hw.ne_nil
  exact Cursor.atEnd_between_cons

/-! ### One step -/

theorem scanToken_symbol (s : Symbol) (r : List Char) :
    scanToken (.between before (s.char :: r)) = (.ofSymbol s, .between (before ++ [s.char]) r) := by
  rw [scanToken, ofByte?_current_symbol, Cursor.bump_between s.char_lt]
  rfl

theorem scanWord_word {w r : List Char} (hw : IsWord w) (hr : Stops r) :
    scanWord (.between before (w ++ r)) = (String.ofList w, .between (before ++ w) r) := by
  rw [scanWord, skipWhile_word before hw hr, Cursor.offset_between]
  simp only [Cursor.sliceFrom?_between, Option.getD_some]

theorem scanToken_word {w r : List Char} (hw : IsWord w) (hr : Stops r) :
    scanToken (.between before (w ++ r)) = (.ofWord w, .between (before ++ w) r) := by
  rw [scanToken, ofByte?_current_word before hw, scanWord_word hw hr]
  rfl

/-- Past the last token there is the end of the input. -/
theorem nextToken_gap {g : List Char} (hg : IsGap g) :
    (between before g finished).nextToken = (.eof, between (before ++ g) [] finished) := by
  simp [nextToken, between, skipWhile_gap_end before hg]

theorem nextToken_symbol {g : List Char} (hg : IsGap g) (s : Symbol) (r : List Char) :
    (between before (g ++ s.char :: r) finished).nextToken =
      (.ofSymbol s, between (before ++ g ++ [s.char]) r finished) := by
  simp [nextToken, between, skipWhile_gap_symbol before hg, scanToken_symbol]

theorem nextToken_word {g w r : List Char} (hg : IsGap g) (hw : IsWord w) (hr : Stops r) :
    (between before (g ++ (w ++ r)) finished).nextToken =
      (.ofWord w, between (before ++ g ++ w) r finished) := by
  simp only [nextToken, between, skipWhile_gap_word before hg hw, atEnd_word (before ++ g) hw,
    scanToken_word hw hr]
  rfl

/-- **One step, over characters.**  The lexer goes over some of the characters ahead.  If there is a
token in them, it is given, and those behind it are still to come; if there is none, the end of the
input is given, and nothing is ahead any more. -/
theorem nextToken_between (before ahead : List Char) (finished : Bool) :
    ∃ t read rest, ahead = read ++ rest ∧
      (between before ahead finished).nextToken = (t, between (before ++ read) rest finished) ∧
      (t.isEof = false ∧ tokens ahead = t :: tokens rest ∨
        t = .eof ∧ tokens ahead = [] ∧ rest = []) := by
  cases cut ahead with
  | gap hg =>
      exact ⟨_, ahead, [], (List.append_nil _).symm, nextToken_gap hg,
        .inr ⟨rfl, tokens_of_isGap hg, rfl⟩⟩
  | @symbol g hg s r =>
      refine ⟨_, g ++ [s.char], r, by simp, ?_, .inl ⟨Token.isEof_ofSymbol s, ?_⟩⟩
      · rw [nextToken_symbol hg, List.append_assoc]
      · rw [tokens_gap hg, tokens_symbol]
  | @word g w r hg hw hr =>
      refine ⟨_, g ++ w, r, by simp, ?_, .inl ⟨Token.isEof_ofWord w, ?_⟩⟩
      · rw [nextToken_word hg hw hr, List.append_assoc]
      · rw [tokens_gap hg, tokens_word hw hr]

/-! ### All tokens -/

/-- The tokens up to the end of the input are those of the text ahead. -/
theorem drain_between (before ahead : List Char) (finished : Bool) :
    (between before ahead finished).drain = tokens ahead ++ [.eof] := by
  -- each step takes one token off those ahead
  induction h : tokens ahead generalizing before ahead with
  | nil =>
      obtain ⟨t, read, rest, -, hn, ⟨-, ht⟩ | ⟨rfl, -, -⟩⟩ := nextToken_between before ahead finished
      · rw [h] at ht; cases ht
      · rw [drain, hn, if_pos Token.isEof_eof]
        rfl
  | cons u us ih =>
      obtain ⟨t, read, rest, -, hn, ⟨he, ht⟩ | ⟨-, ht, -⟩⟩ := nextToken_between before ahead finished
      · obtain ⟨rfl, hus⟩ := List.cons.inj (h.symm.trans ht)
        rw [drain, hn, if_neg (by simp [he]), ih _ _ hus.symm]
        rfl
      · rw [h] at ht; cases ht

theorem tokenize_ofString (s : String) : (ofString s).tokenize.1 = tokens s.toList ++ [.eof] := by
  rw [tokenize, ofString_eq_between, drain_between]

/-- The tokens of a source, without the end of the input. -/
def tokensOf (s : String) : List Token :=
  (ofString s).tokenize.1.dropLast

theorem tokensOf_eq (s : String) : tokensOf s = tokens s.toList := by
  rw [tokensOf, tokenize_ofString, List.dropLast_concat]

end Lexer

end Tokenizer
