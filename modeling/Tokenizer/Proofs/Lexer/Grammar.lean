import Mathlib.Data.List.Chain
import Tokenizer.Proofs.Lexer.Reading

/-!
# The grammar of token streams

A text *spells* tokens when it is their literals in order, with blanks before, between and behind
them, and with at least one blank wherever two tokens would run together (`Spells`).  Two tokens run
together when the first is a word and the second is a word or a dot; a symbol ends at once, and every
symbol but the dot ends the word before it.

* `tokenize_eq_iff_spells`: the tokens of a text are exactly those that it spells.

So a text spells at most one list of tokens, and at least one: lexing never fails.
-/

namespace Tokenizer

open Text

/-! ### Tokens by their bytes -/

/-- A symbol: one byte, and the kind that is the byte's. -/
def IsSymbolToken (t : Token) : Prop :=
  ∃ b, (Symbol.ofByte? b).map Kind.symbol = some t.kind ∧ bytes t.literal = [b]

/-- A word: not empty, without a blank, with no symbol but the dot and with no dot in front, and of
the kind that such a word has. -/
structure IsWordToken (t : Token) : Prop where
  ne_empty : t.literal ≠ ""
  no_blank : ∀ b ∈ bytes t.literal, isBlank b = false
  no_symbol : ∀ b ∈ bytes t.literal, ∀ s, Symbol.ofByte? b = some s → s = .dot
  no_leading_dot : (bytes t.literal).head? ≠ some Symbol.dot.byte
  kind_eq : t.kind = Word.classify t.literal

/-- A text of blanks, perhaps empty. -/
def IsBlanks (g : String) : Prop :=
  ∀ c ∈ g.toList, c = ' ' ∨ c = '\t' ∨ c = '\r' ∨ c = '\n'

/-- `u` may follow `t` at once: one of them is a symbol, and `u`, if `t` is none, is not the dot. -/
def MayTouch (t u : Token) : Prop :=
  IsSymbolToken t ∨ IsSymbolToken u ∧ u.kind ≠ .symbol .dot

/-- The text `s` is the literals of `ts`, each with the blanks in front of it, and then the blanks
behind the last; where there is no blank between two tokens, the second may follow the first at
once. -/
def Spells (s : String) (ts : List Token) : Prop :=
  ∃ (pieces : List (String × Token)) (last : String),
    ts = pieces.map Prod.snd ∧
      s = String.join (pieces.map fun p => p.1 ++ p.2.literal) ++ last ∧
      (∀ p ∈ pieces, IsBlanks p.1 ∧ (IsSymbolToken p.2 ∨ IsWordToken p.2)) ∧ IsBlanks last ∧
      pieces.IsChain fun p q => q.1 = "" → MayTouch p.2 q.2

/-! ### Tokens by their characters -/

theorem isBlanks_iff {g : String} : IsBlanks g ↔ IsGap g.toList := by
  simp [IsBlanks, IsGap, isBlankChar, or_assoc]

theorem bytes_char (s : Symbol) : bytes s.char.toString = [s.byte] := by
  cases s <;> rfl

theorem isSymbolToken_iff {t : Token} : IsSymbolToken t ↔ ∃ s, t = .ofSymbol s := by
  constructor
  · rintro ⟨b, hk, hb⟩
    obtain ⟨s, hs, hs'⟩ := Option.map_eq_some_iff.mp hk
    obtain rfl := Symbol.ofByte?_eq_some_iff.mp hs
    have hl : t.literal = s.char.toString := bytes_injective (hb.trans (bytes_char s).symm)
    exact ⟨s, by rw [Token.ofSymbol, hs', ← hl]⟩
  · rintro ⟨s, rfl⟩
    exact ⟨s.byte, by rw [Symbol.ofByte?_byte]; rfl, bytes_char s⟩

theorem isDelimiter_eq_false_iff {b : UInt8} : isDelimiter b = false ↔
    isBlank b = false ∧ ∀ s, Symbol.ofByte? b = some s → s = .dot := by
  rw [isDelimiter, Bool.or_eq_false_iff]
  refine and_congr_right fun _ => ?_
  cases h : Symbol.ofByte? b with
  | none => simp
  | some s =>
      obtain rfl := Symbol.ofByte?_eq_some_iff.mp h
      simp only [Option.isSome_some, Bool.and_true, bne_eq_false_iff_eq, Option.some.injEq,
        forall_eq']
      refine ⟨fun h => ?_, fun h => h ▸ rfl⟩
      rw [← Option.some_inj, ← Symbol.ofByte?_byte s, h, Symbol.ofByte?_byte]

theorem isWord_iff (w : List Char) : IsWord w ↔ String.ofList w ≠ "" ∧
    (∀ b ∈ bytes (String.ofList w), isDelimiter b = false) ∧
      (bytes (String.ofList w)).head? ≠ some Symbol.dot.byte := by
  have hd := no_delimiter_iff (String.ofList w)
  have hl : (bytes (String.ofList w)).head? = some Symbol.dot.byte ↔ w.head? = some '.' :=
    head?_bytes_eq_some_iff (by decide) w
  rw [String.toList_ofList] at hd
  rw [hd, Ne, Ne, hl, String.ofList_eq_empty_iff]
  exact ⟨fun h => ⟨h.ne_nil, h.no_delimiter, h.no_leading_dot⟩, fun ⟨h₁, h₂, h₃⟩ => ⟨h₁, h₂, h₃⟩⟩

theorem isWordToken_iff {t : Token} : IsWordToken t ↔ ∃ w, IsWord w ∧ t = .ofWord w := by
  constructor
  · intro h
    refine ⟨t.literal.toList, (isWord_iff _).mpr ?_, ?_⟩
    · rw [String.ofList_toList]
      exact ⟨h.ne_empty, fun b hb => isDelimiter_eq_false_iff.mpr ⟨h.no_blank b hb, h.no_symbol b hb⟩,
        h.no_leading_dot⟩
    · rw [Token.ofWord, String.ofList_toList, ← h.kind_eq]
  · rintro ⟨w, hw, rfl⟩
    obtain ⟨h₁, h₂, h₃⟩ := (isWord_iff w).mp hw
    exact ⟨h₁, fun b hb => (isDelimiter_eq_false_iff.mp (h₂ b hb)).1,
      fun b hb => (isDelimiter_eq_false_iff.mp (h₂ b hb)).2, h₃, rfl⟩

/-! ### What the tokens spell -/

/-- The pieces of a text, one after the other. -/
def spelling (pieces : List (String × Token)) : String :=
  String.join (pieces.map fun p => p.1 ++ p.2.literal)

theorem spelling_cons (g : String) (t : Token) (ps : List (String × Token)) (last : String) :
    (spelling ((g, t) :: ps) ++ last).toList =
      g.toList ++ (t.literal.toList ++ (spelling ps ++ last).toList) := by
  simp [spelling, String.join_cons]

theorem isDelimiterChar_symbol {s : Symbol} : isDelimiterChar s.char = true ↔ s ≠ .dot := by
  cases s <;> decide

theorem not_isSymbolToken_ofWord (w : List Char) : ¬ IsSymbolToken (.ofWord w) := by
  intro h
  obtain ⟨s, hs⟩ := isSymbolToken_iff.mp h
  have hk := congrArg Token.kind hs
  change Word.classify _ = Kind.symbol s at hk
  rcases Word.classify_cases (String.ofList w) with ⟨k, h⟩ | h | h | h | h <;>
    · rw [h] at hk; cases hk

/-- A piece that may follow a word begins with a character that ends the word. -/
theorem stops_piece {g : String} {t : Token} {w r : List Char} (hg : IsBlanks g)
    (ht : g = "" → MayTouch (.ofWord w) t) :
    Stops (g.toList ++ (t.literal.toList ++ r)) := by
  by_cases hne : g = ""
  · obtain ⟨hs, hd⟩ := (ht hne).resolve_left (not_isSymbolToken_ofWord w)
    obtain ⟨s, rfl⟩ := isSymbolToken_iff.mp hs
    subst hne
    have : isDelimiterChar s.char = true := isDelimiterChar_symbol.mpr fun e => hd (by rw [e]; rfl)
    simpa [Token.ofSymbol] using stops_cons.mpr this
  · exact (isBlanks_iff.mp hg).stops.append (fun e => hne (String.toList_eq_nil_iff.mp e)) _

/-- Tokens are read off the text that spells them. -/
theorem tokens_spelling {last : String} (hl : IsBlanks last) :
    ∀ pieces : List (String × Token),
      (∀ p ∈ pieces, IsBlanks p.1 ∧ (IsSymbolToken p.2 ∨ IsWordToken p.2)) →
      (pieces.IsChain fun p q => q.1 = "" → MayTouch p.2 q.2) →
      tokens (spelling pieces ++ last).toList = pieces.map Prod.snd
  | [], _, _ => by
      rw [show spelling [] = "" from rfl, String.empty_append]
      exact tokens_of_isGap (isBlanks_iff.mp hl)
  | (g, t) :: ps, hp, hc => by
      obtain ⟨hg, ht⟩ := hp (g, t) List.mem_cons_self
      obtain ⟨hhead, hc⟩ := List.isChain_cons.mp hc
      have ih := tokens_spelling hl ps (fun p h => hp p (List.mem_cons_of_mem _ h)) hc
      rw [spelling_cons, tokens_gap (isBlanks_iff.mp hg), List.map_cons, ← ih]
      rcases ht with ht | ht
      · obtain ⟨s, rfl⟩ := isSymbolToken_iff.mp ht
        simp only [Token.ofSymbol, Char.toString, String.toList_singleton, List.singleton_append]
        exact tokens_symbol s _
      · obtain ⟨w, hw, rfl⟩ := isWordToken_iff.mp ht
        simp only [Token.ofWord, String.toList_ofList]
        refine tokens_word hw ?_
        -- behind the word there are the last blanks, or the next piece
        cases ps with
        | nil =>
            rw [show spelling [] = "" from rfl, String.empty_append]
            exact (isBlanks_iff.mp hl).stops
        | cons q ps =>
            rw [spelling_cons]
            exact stops_piece (hp q (by simp)).1 (hhead q rfl)

/-- A token in front of a text that it may touch. -/
theorem Spells.cons {s g : String} {t : Token} {ts : List Token} (h : Spells s ts)
    (hg : IsBlanks g) (ht : IsSymbolToken t ∨ IsWordToken t)
    (htouch : ∀ u r, IsSymbolToken u ∨ IsWordToken u → s = u.literal ++ r → MayTouch t u) :
    Spells (g ++ (t.literal ++ s)) (t :: ts) := by
  obtain ⟨pieces, last, rfl, rfl, hp, hl, hc⟩ := h
  refine ⟨(g, t) :: pieces, last, rfl, ?_, ?_, hl, List.isChain_cons.mpr ⟨?_, hc⟩⟩
  · simp [String.join_cons, String.append_assoc]
  · intro p h
    rcases List.mem_cons.mp h with rfl | h
    · exact ⟨hg, ht⟩
    · exact hp p h
  · intro q hq e
    obtain ⟨ps, rfl⟩ : ∃ ps, pieces = q :: ps := List.head?_eq_some_iff.mp hq
    refine htouch q.2 (spelling ps ++ last) (hp q List.mem_cons_self).2 ?_
    simp [spelling, String.join_cons, String.append_assoc, e]

/-- A token in front of which a word ends may touch the word. -/
theorem mayTouch_of_stops {w cs : List Char} (hs : Stops cs) {u : Token} {r : String}
    (hu : IsSymbolToken u ∨ IsWordToken u) (e : String.ofList cs = u.literal ++ r) :
    MayTouch (.ofWord w) u := by
  have e' : cs = u.literal.toList ++ r.toList := by
    rw [← String.toList_append, ← e, String.toList_ofList]
  subst e'
  rcases hu with hu | hu
  -- a symbol in front of which a word ends is not the dot, and a word is never in front of another
  · refine .inr ⟨hu, ?_⟩
    obtain ⟨s, rfl⟩ := isSymbolToken_iff.mp hu
    simp only [Token.ofSymbol, Char.toString, String.toList_singleton, List.singleton_append,
      stops_cons, isDelimiterChar_symbol] at hs
    exact fun h => hs (Kind.symbol.inj h)
  · obtain ⟨w', hw', rfl⟩ := isWordToken_iff.mp hu
    obtain ⟨c, w', rfl⟩ := List.exists_cons_of_ne_nil hw'.ne_nil
    simp only [Token.ofWord, String.toList_ofList, List.cons_append, stops_cons] at hs
    exact absurd hs (by simp [hw'.no_delimiter c List.mem_cons_self])

/-- Every text spells its tokens. -/
theorem spells_tokens (cs : List Char) : Spells (String.ofList cs) (tokens cs) := by
  induction cs using Text.induction with
  | gap g hg =>
      refine ⟨[], String.ofList g, by rw [tokens_of_isGap hg]; rfl, by simp [String.join_nil],
        by simp, isBlanks_iff.mpr (by simpa using hg), .nil⟩
  | symbol g s r hg ih =>
      have ht := isSymbolToken_iff.mpr ⟨s, rfl⟩
      rw [tokens_gap hg, tokens_symbol, String.ofList_append, String.ofList_cons]
      exact ih.cons (t := .ofSymbol s) (isBlanks_iff.mpr (by simpa using hg)) (.inl ht)
        fun _ _ _ _ => .inl ht
  | word g w r hg hw hs ih =>
      have ht := isWordToken_iff.mpr ⟨w, hw, rfl⟩
      rw [tokens_gap hg, tokens_word hw hs, String.ofList_append, String.ofList_append]
      exact ih.cons (t := .ofWord w) (isBlanks_iff.mpr (by simpa using hg)) (.inr ht)
        fun _ _ hu e => mayTouch_of_stops hs hu e

/-- **The grammar of token streams.**  A source is read as the tokens `ts` and then the end of the
input exactly when it spells `ts`. -/
theorem tokenize_eq_iff_spells (s : String) (ts : List Token) :
    (Lexer.ofString s).tokenize.1 = ts ++ [.eof] ↔ Spells s ts := by
  rw [Lexer.tokenize_ofString, List.append_cancel_right_eq]
  constructor
  · rintro rfl
    simpa using spells_tokens s.toList
  · rintro ⟨pieces, last, rfl, rfl, hp, hl, hc⟩
    exact tokens_spelling hl pieces hp hc

end Tokenizer
