import Tokenizer.Lexer
import Tokenizer.Proofs.Text.Bytes
import Tokenizer.Proofs.Text.Run

/-!
# Lexing by characters

The lexer reads bytes.  All that it tells apart are ASCII characters, so the same tokens can be read
off the characters of a text (`tokens`), by a recursion that knows neither offsets nor cursors.

A text is a *gap* alone, or a gap and a symbol before a shorter text, or a gap and a word before a
shorter text that does not go on with the word (`cut`); and the tokens of a text follow that shape
(`tokens_gap`, `tokens_symbol`, `tokens_word`).  What holds of gaps, and is kept by a symbol and by a
word in front, holds of every text (`induction`).

* `agree_isBlank`, `ofByte?_of_mem`, `agree_isDelimiter`: what the lexer tells of bytes is told of
  the characters they belong to.
-/

namespace Tokenizer

/-- The symbol written as the character `c`. -/
def Symbol.ofChar? (c : Char) : Option Symbol :=
  Symbol.all.find? (·.char == c)

/-- The token of a symbol. -/
def Token.ofSymbol (s : Symbol) : Token :=
  ⟨.symbol s, s.char.toString⟩

/-- The token of a word. -/
def Token.ofWord (w : List Char) : Token :=
  ⟨Word.classify (String.ofList w), String.ofList w⟩

namespace Symbol

theorem char_lt (s : Symbol) : s.char.toNat < 128 := by
  cases s <;> decide

theorem ofChar?_char (s : Symbol) : ofChar? s.char = some s := by
  cases s <;> decide

theorem ofChar?_eq_some_iff {c : Char} {s : Symbol} : ofChar? c = some s ↔ s.char = c :=
  ⟨fun h => by simpa using List.find?_some h, fun h => h ▸ ofChar?_char s⟩

/-- Every byte of a character is written as the same symbol as the character. -/
theorem ofByte?_of_mem {c : Char} {b : UInt8} (hb : b ∈ String.utf8EncodeChar c) :
    ofByte? b = ofChar? c := by
  refine congrArg (List.find? · all) (funext fun s => ?_)
  rw [Bool.eq_iff_iff, beq_iff_eq, beq_iff_eq, eq_comm, eq_comm (b := c)]
  exact Text.eq_toUInt8_iff s.char_lt hb

end Symbol

namespace Text

/-! ### Blanks, delimiters and words -/

/-- Whether a character separates tokens without being one. -/
def isBlankChar (c : Char) : Bool :=
  c == ' ' || c == '\t' || c == '\r' || c == '\n'

/-- Whether a character ends the word before it. -/
def isDelimiterChar (c : Char) : Bool :=
  isBlankChar c || c != '.' && (Symbol.ofChar? c).isSome

theorem agree_isBlank : Agree isBlank isBlankChar :=
  (((agree_beq (by decide)).or (agree_beq (by decide))).or (agree_beq (by decide))).or
    (agree_beq (by decide))

theorem agree_isDelimiter : Agree isDelimiter isDelimiterChar :=
  agree_isBlank.or ((agree_beq (by decide)).not.and fun c b hb => by
    rw [Symbol.ofByte?_of_mem hb])

/-- A run of blanks, perhaps empty. -/
def IsGap (g : List Char) : Prop :=
  ∀ c ∈ g, isBlankChar c = true

/-- A run of characters that is read as one word: not empty, without a delimiter, and with no dot in
front. -/
structure IsWord (w : List Char) : Prop where
  ne_nil : w ≠ []
  no_delimiter : ∀ c ∈ w, isDelimiterChar c = false
  no_leading_dot : w.head? ≠ some '.'

/-- A word in front of `r` ends there. -/
def Stops (r : List Char) : Prop :=
  ∀ c ∈ r.head?, isDelimiterChar c = true

theorem isBlankChar_symbol (s : Symbol) : isBlankChar s.char = false := by
  cases s <;> decide

theorem isDelimiterChar_of_isBlankChar {c : Char} (h : isBlankChar c = true) :
    isDelimiterChar c = true := by
  simp [isDelimiterChar, h]

theorem isBlankChar_of_isDelimiterChar {c : Char} (h : isDelimiterChar c = false) :
    isBlankChar c = false :=
  Bool.eq_false_iff.mpr fun h' => Bool.eq_false_iff.mp h (isDelimiterChar_of_isBlankChar h')

/-- The first character of a word is no symbol. -/
theorem IsWord.head_ofChar? {c : Char} {w : List Char} (h : IsWord (c :: w)) :
    Symbol.ofChar? c = none := by
  have hd := h.no_delimiter c List.mem_cons_self
  have hc : c ≠ '.' := fun e => h.no_leading_dot (e ▸ rfl)
  simpa [isDelimiterChar, hc] using (Bool.or_eq_false_iff.mp hd).2

theorem stops_nil : Stops [] :=
  fun _ h => by cases h

theorem stops_cons {c : Char} {r : List Char} : Stops (c :: r) ↔ isDelimiterChar c = true := by
  simp [Stops]

theorem stops_dropWhile (cs : List Char) : Stops (cs.dropWhile (!isDelimiterChar ·)) := by
  intro c hc
  have := List.head?_dropWhile_not (!isDelimiterChar ·) cs
  rw [Option.mem_def] at hc
  rw [hc] at this
  simpa using this

theorem Stops.append {r : List Char} (hr : Stops r) (hne : r ≠ []) (cs : List Char) :
    Stops (r ++ cs) := by
  obtain ⟨c, r, rfl⟩ := List.exists_cons_of_ne_nil hne
  exact stops_cons.mpr (stops_cons.mp hr)

theorem IsGap.stops {g : List Char} (hg : IsGap g) : Stops g :=
  fun c hc => isDelimiterChar_of_isBlankChar (hg c (List.mem_of_mem_head? hc))

theorem no_delimiter_iff (s : String) :
    (∀ b ∈ bytes s, isDelimiter b = false) ↔ ∀ c ∈ s.toList, isDelimiterChar c = false := by
  simpa using agree_isDelimiter.not.forall_mem s.toList

/-! ### The tokens of a text -/

/-- The tokens of a text, without the end of the input. -/
def tokens : List Char → List Token
  | [] => []
  | c :: cs =>
    if isBlankChar c then tokens cs
    else match Symbol.ofChar? c with
      | some s => .ofSymbol s :: tokens cs
      | none =>
        .ofWord (c :: cs.takeWhile (!isDelimiterChar ·)) ::
          tokens (cs.dropWhile (!isDelimiterChar ·))
termination_by cs => cs.length
decreasing_by
  all_goals simp only [List.length_cons]
  · omega
  · omega
  · exact Nat.lt_succ_of_le (List.dropWhile_sublist _).length_le

@[simp] theorem tokens_nil : tokens [] = [] := by
  rw [tokens]

/-- Blanks in front do not count. -/
theorem tokens_gap {g : List Char} (hg : IsGap g) (cs : List Char) :
    tokens (g ++ cs) = tokens cs := by
  induction g with
  | nil => rfl
  | cons c g ih =>
      rw [List.cons_append, tokens, if_pos (hg c List.mem_cons_self)]
      exact ih fun c' h => hg c' (List.mem_cons_of_mem _ h)

theorem tokens_of_isGap {g : List Char} (hg : IsGap g) : tokens g = [] := by
  rw [← List.append_nil g, tokens_gap hg, tokens_nil]

theorem tokens_symbol (s : Symbol) (cs : List Char) :
    tokens (s.char :: cs) = .ofSymbol s :: tokens cs := by
  rw [tokens, if_neg (by simp [isBlankChar_symbol]), Symbol.ofChar?_char]

theorem takeWhile_word {w r : List Char} (hw : IsWord w) (hr : Stops r) :
    (w ++ r).takeWhile (!isDelimiterChar ·) = w :=
  takeWhile_append_eq_left (fun c hc => by simp [hw.no_delimiter c hc])
    fun c hc => by simp [hr c hc]

theorem dropWhile_word {w r : List Char} (hw : IsWord w) (hr : Stops r) :
    (w ++ r).dropWhile (!isDelimiterChar ·) = r :=
  dropWhile_append_eq_right (fun c hc => by simp [hw.no_delimiter c hc])
    fun c hc => by simp [hr c hc]

theorem tokens_word {w r : List Char} (hw : IsWord w) (hr : Stops r) :
    tokens (w ++ r) = .ofWord w :: tokens r := by
  obtain ⟨c, w, rfl⟩ := List.exists_cons_of_ne_nil hw.ne_nil
  have hc := hw.no_delimiter c List.mem_cons_self
  have ht := takeWhile_word hw hr
  have hd := dropWhile_word hw hr
  rw [List.cons_append, List.takeWhile_cons_of_pos (by simp [hc])] at ht
  rw [List.cons_append, List.dropWhile_cons_of_pos (by simp [hc])] at hd
  rw [List.cons_append, tokens, if_neg (by simp [isBlankChar_of_isDelimiterChar hc]),
    hw.head_ofChar?, ht, hd]

/-! ### The shape of a text -/

/-- A gap alone, or a gap and a symbol in front of a text, or a gap and a word in front of a text. -/
inductive Cut : List Char → Prop where
  | gap {g : List Char} (hg : IsGap g) : Cut g
  | symbol {g : List Char} (hg : IsGap g) (s : Symbol) (r : List Char) : Cut (g ++ s.char :: r)
  | word {g w r : List Char} (hg : IsGap g) (hw : IsWord w) (hr : Stops r) : Cut (g ++ (w ++ r))

theorem isWord_cons_takeWhile {c : Char} (hb : isBlankChar c = false)
    (hs : Symbol.ofChar? c = none) (cs : List Char) :
    IsWord (c :: cs.takeWhile (!isDelimiterChar ·)) where
  ne_nil := List.cons_ne_nil _ _
  no_delimiter := by
    intro d hd
    rcases List.mem_cons.mp hd with rfl | hd
    · simp [isDelimiterChar, hb, hs]
    · simpa using List.mem_takeWhile_imp hd
  no_leading_dot := by
    rintro ⟨⟩
    exact absurd hs (by decide)

/-- Every text has one of the three shapes. -/
theorem cut (cs : List Char) : Cut cs := by
  have hg : IsGap (cs.takeWhile isBlankChar) := fun c hc => List.mem_takeWhile_imp hc
  rw [← List.takeWhile_append_dropWhile (p := isBlankChar) (l := cs)]
  cases h : cs.dropWhile isBlankChar with
  | nil => rw [List.append_nil]; exact .gap hg
  | cons c r =>
      have hb : isBlankChar c = false := by
        have := List.head?_dropWhile_not isBlankChar cs
        simpa [h] using this
      cases hs : Symbol.ofChar? c with
      | some s =>
          obtain rfl := Symbol.ofChar?_eq_some_iff.mp hs
          exact .symbol hg s r
      | none =>
          rw [← List.takeWhile_append_dropWhile (p := (!isDelimiterChar ·)) (l := r),
            ← List.cons_append]
          exact .word hg (isWord_cons_takeWhile hb hs r) (stops_dropWhile r)

/-- What holds of gaps and is kept by a symbol and by a word in front holds of every text. -/
@[elab_as_elim] theorem induction {P : List Char → Prop} (gap : ∀ g, IsGap g → P g)
    (symbol : ∀ g (s : Symbol) r, IsGap g → P r → P (g ++ s.char :: r))
    (word : ∀ g w r, IsGap g → IsWord w → Stops r → P r → P (g ++ (w ++ r))) (cs : List Char) :
    P cs := by
  induction h : cs.length using Nat.strongRecOn generalizing cs with
  | _ n ih =>
      subst h
      -- a symbol and a word are not empty, so that the text behind them is shorter
      cases cut cs with
      | gap hg => exact gap _ hg
      | @symbol g hg s r =>
          exact symbol g s r hg (ih _ (by simp; omega) r rfl)
      | @word g w r hg hw hr =>
          have := List.length_pos_iff.mpr hw.ne_nil
          exact word g w r hg hw hr (ih _ (by simp; omega) r rfl)

end Text

end Tokenizer
