import Tokenizer.Proofs.Lexer.Grammar

/-!
# The tokens of a concatenation

Appending a text `b` to a text `a` changes no token of `a` but a word at its very end.  Whether `a`
ends in a word is not told by its last byte: a dot at the end is a symbol or the last byte of a word,
depending on what precedes it.

* `ending`: a text ends between two tokens, and then its tokens are the first tokens of every
  text that goes on from it; or it ends in a word, and then that word takes in what follows up to the
  next delimiter.
* `tokensOf_append`: the law for the tokens of a concatenation, in both cases.
-/

namespace Tokenizer

open Text

/-! ### How a text ends -/

/-- `a` ends between two tokens: it is empty, or it ends in a blank, or it ends in the symbol that is
its last token. -/
def Ended (a : List Char) : Prop :=
  a = [] ∨ (∃ c, a.getLast? = some c ∧ isBlankChar c = true) ∨
    ∃ s : Symbol, (tokens a).getLast? = some (.ofSymbol s) ∧ a.getLast? = some s.char

/-- `a` ends in the word `w`, behind the tokens `ts`: the word goes on up to the next delimiter. -/
structure Open (a : List Char) (ts : List Token) (w : List Char) : Prop where
  isWord : IsWord w
  suffix : w <:+ a
  tokens_append : ∀ u r, (∀ c ∈ u, isDelimiterChar c = false) → Stops r →
    tokens (a ++ (u ++ r)) = ts ++ .ofWord (w ++ u) :: tokens r

theorem Text.IsWord.append {w u : List Char} (hw : IsWord w)
    (hu : ∀ c ∈ u, isDelimiterChar c = false) : IsWord (w ++ u) where
  ne_nil := List.append_ne_nil_of_left_ne_nil hw.ne_nil u
  no_delimiter c hc := (List.mem_append.mp hc).elim (hw.no_delimiter c) (hu c)
  no_leading_dot := by
    rw [List.head?_append_of_ne_nil _ hw.ne_nil]
    exact hw.no_leading_dot

/-- With a token in front a text ends as before. -/
theorem Ended.cons {p r : List Char} {t : Token} (hr : Ended r) (hne : r ≠ [])
    (ht : tokens (p ++ r) = t :: tokens r) : Ended (p ++ r) := by
  have hl : (p ++ r).getLast? = r.getLast? := List.getLast?_append_of_ne_nil _ hne
  rcases hr with rfl | ⟨c, hc, hb⟩ | ⟨s, hs, hc⟩
  · exact absurd rfl hne
  · exact .inr (.inl ⟨c, hl.trans hc, hb⟩)
  · refine .inr (.inr ⟨s, ?_, hl.trans hc⟩)
    rw [ht, List.getLast?_cons, hs]
    rfl

theorem Open.cons {p r w : List Char} {t : Token} {ts : List Token} (h : Open r ts w)
    (ht : ∀ b, tokens (p ++ (r ++ b)) = t :: tokens (r ++ b)) : Open (p ++ r) (t :: ts) w where
  isWord := h.isWord
  suffix := h.suffix.trans (List.suffix_append p r)
  tokens_append u r' hu hr := by
    rw [List.append_assoc, ht, h.tokens_append u r' hu hr, List.cons_append]

/-- `a` ends between two tokens, and its tokens are the first of every text that goes on from it; or
it ends in a word. -/
def Ending (a : List Char) : Prop :=
  Ended a ∧ (∀ b, tokens (a ++ b) = tokens a ++ tokens b) ∨ ∃ ts w, Open a ts w

theorem ending_gap {g : List Char} (hg : IsGap g) : Ending g := by
  refine .inl ⟨?_, fun b => by rw [tokens_gap hg, tokens_of_isGap hg, List.nil_append]⟩
  rcases List.eq_nil_or_concat' g with rfl | ⟨g, c, rfl⟩
  · exact .inl rfl
  · exact .inr (.inl ⟨c, List.getLast?_concat, hg c (by simp)⟩)

theorem ending_symbol {g : List Char} (hg : IsGap g) (s : Symbol) : Ending (g ++ [s.char]) := by
  have ht (b : List Char) : tokens (g ++ [s.char] ++ b) = .ofSymbol s :: tokens b := by
    rw [List.append_assoc, tokens_gap hg, List.singleton_append, tokens_symbol]
  have hs : tokens (g ++ [s.char]) = [.ofSymbol s] := by simpa using ht []
  refine .inl ⟨.inr (.inr ⟨s, by rw [hs]; rfl, List.getLast?_concat⟩), fun b => ?_⟩
  rw [hs]
  exact ht b

theorem ending_word {g w : List Char} (hg : IsGap g) (hw : IsWord w) : Ending (g ++ w) := by
  refine .inr ⟨[], w, hw, List.suffix_append g w, fun u r hu hr => ?_⟩
  rw [List.append_assoc, tokens_gap hg, ← List.append_assoc, tokens_word (hw.append hu) hr,
    List.nil_append]

/-- A token in front of a text that is not empty does not change how the text ends. -/
theorem Ending.cons {p r : List Char} {t : Token} (h : Ending r) (hne : r ≠ [])
    (ht : ∀ b, tokens (p ++ (r ++ b)) = t :: tokens (r ++ b)) : Ending (p ++ r) := by
  have ht' : tokens (p ++ r) = t :: tokens r := by simpa using ht []
  rcases h with ⟨he, hb⟩ | ⟨ts, w, ho⟩
  · refine .inl ⟨he.cons hne ht', fun b => ?_⟩
    rw [List.append_assoc, ht, hb, ht', List.cons_append]
  · exact .inr ⟨t :: ts, w, ho.cons ht⟩

/-- Every text ends between two tokens or in a word. -/
theorem ending (a : List Char) : Ending a := by
  induction a using Text.induction with
  | gap g hg => exact ending_gap hg
  | symbol g s r hg ih =>
      rw [List.append_cons]
      by_cases hne : r = []
      · subst hne
        rw [List.append_nil]
        exact ending_symbol hg s
      · refine ih.cons (t := .ofSymbol s) hne fun b => ?_
        rw [List.append_assoc, tokens_gap hg, List.singleton_append, tokens_symbol]
  | word g w r hg hw hs ih =>
      rw [← List.append_assoc]
      by_cases hne : r = []
      · subst hne
        rw [List.append_nil]
        exact ending_word hg hw
      · refine ih.cons (t := .ofWord w) hne fun b => ?_
        rw [List.append_assoc, tokens_gap hg, tokens_word hw (hs.append hne b)]

theorem Open.tokens_eq {a w : List Char} {ts : List Token} (h : Open a ts w) :
    tokens a = ts ++ [.ofWord w] := by
  simpa using h.tokens_append [] [] (by simp) stops_nil

/-- A text that ends in a word does not end between two tokens. -/
theorem Open.not_ended {a w : List Char} {ts : List Token} (h : Open a ts w) : ¬ Ended a := by
  obtain ⟨p, rfl⟩ := h.suffix
  have hl : (p ++ w).getLast? = w.getLast? := List.getLast?_append_of_ne_nil p h.isWord.ne_nil
  rintro (e | ⟨c, hc, hb⟩ | ⟨s, hs, -⟩)
  · exact h.isWord.ne_nil (List.append_eq_nil_iff.mp e).2
  · have := h.isWord.no_delimiter c (List.mem_of_getLast? (hl.symm.trans hc))
    rw [isDelimiterChar_of_isBlankChar hb] at this
    cases this
  · rw [h.tokens_eq, List.getLast?_concat, Option.some_inj] at hs
    exact not_isSymbolToken_ofWord w (hs ▸ isSymbolToken_iff.mpr ⟨s, rfl⟩)

/-- A delimiter ends the word. -/
theorem Open.append_of_stops {a b w : List Char} {ts : List Token} (h : Open a ts w)
    (hb : Stops b) : tokens (a ++ b) = tokens a ++ tokens b := by
  have := h.tokens_append [] b (by simp) hb
  rw [List.nil_append, List.append_nil] at this
  rw [this, h.tokens_eq, List.append_assoc, List.singleton_append]

/-- A word that goes on is another word. -/
theorem Open.append_ne {a u r w : List Char} {ts : List Token} (h : Open a ts w)
    (hu : ∀ c ∈ u, isDelimiterChar c = false) (hr : Stops r) (hne : u ≠ []) :
    tokens (a ++ (u ++ r)) ≠ tokens a ++ tokens (u ++ r) := by
  rw [h.tokens_append u r hu hr, h.tokens_eq, List.append_assoc, List.singleton_append]
  intro e
  have e' := congrArg Token.literal (List.cons.inj (List.append_cancel_left e)).1
  exact hne (List.append_right_eq_self.mp (String.ofList_inj.mp e'))

/-! ### The law -/

/-- The last byte of `a` is that of a symbol, and this symbol is the last token of `a`. -/
def EndsInSymbol (a : String) : Prop :=
  ∃ s : Symbol, (Lexer.tokensOf a).getLast? = some (.ofSymbol s) ∧
    (bytes a).getLast? = some s.byte

/-- No token goes on from `a` into `b`: one of them is empty, or `a` ends in a blank or in a symbol,
or `b` begins with a delimiter. -/
def Separate (a b : String) : Prop :=
  a = "" ∨ b = "" ∨ (bytes a).getLast?.any isBlank = true ∨ EndsInSymbol a ∨
    (bytes b).head?.any isDelimiter = true

/-- `b` is `u` and then `r`, and `u` is the longest beginning of `b` without a delimiter. -/
structure CutAtDelimiter (b u r : String) : Prop where
  eq_append : b = u ++ r
  no_delimiter : ∀ x ∈ bytes u, isDelimiter x = false
  longest : ∀ v q, b = v ++ q → (∀ x ∈ bytes v, isDelimiter x = false) →
    v.utf8ByteSize ≤ u.utf8ByteSize

theorem ended_iff {a : String} : Ended a.toList ↔
    a = "" ∨ (bytes a).getLast?.any isBlank = true ∨ EndsInSymbol a := by
  have hb := agree_isBlank.getLast? a.toList
  have hs (s : Symbol) : (bytes a).getLast? = some s.byte ↔ a.toList.getLast? = some s.char := by
    have := getLast?_bytes_eq_some_iff s.char_lt a.toList
    rwa [String.ofList_toList] at this
  rw [String.ofList_toList] at hb
  simp only [Ended, EndsInSymbol, hb, hs, Lexer.tokensOf_eq, Option.any_eq_true,
    String.toList_eq_nil_iff]

theorem separate_iff {a b : String} : Separate a b ↔ Ended a.toList ∨ Stops b.toList := by
  have hd := agree_isDelimiter.head? b.toList
  have hs : Stops b.toList ↔ b = "" ∨ b.toList.head?.any isDelimiterChar = true := by
    rw [← String.toList_eq_nil_iff]
    cases b.toList with
    | nil => simp [stops_nil]
    | cons c r => simp [stops_cons]
  rw [String.ofList_toList] at hd
  rw [Separate, ended_iff, hs, hd]
  tauto

theorem exists_cutAtDelimiter (b : String) : ∃ u r : List Char,
    CutAtDelimiter b (.ofList u) (.ofList r) ∧ b.toList = u ++ r ∧
      (∀ c ∈ u, isDelimiterChar c = false) ∧ Stops r := by
  have hu (c : Char) (hc : c ∈ b.toList.takeWhile (!isDelimiterChar ·)) :
      isDelimiterChar c = false := by simpa using List.mem_takeWhile_imp hc
  refine ⟨_, _, ⟨?_, ?_, ?_⟩, List.takeWhile_append_dropWhile.symm, hu, stops_dropWhile b.toList⟩
  · rw [← String.ofList_append, List.takeWhile_append_dropWhile, String.ofList_toList]
  · rw [no_delimiter_iff, String.toList_ofList]
    exact hu
  · rintro v q rfl hv
    rw [no_delimiter_iff] at hv
    rw [String.toList_append, List.takeWhile_append_of_pos fun c hc => by simp [hv c hc],
      String.ofList_append, String.utf8ByteSize_append, String.ofList_toList]
    exact Nat.le_add_right _ _

/-- **The tokens of a concatenation.**  Where no token goes on from `a` into `b`, they are those of
`a` and then those of `b`.  Everywhere else the last token of `a` is a word, and it takes in `b` up
to the first delimiter there: the other tokens of `a` stay, and behind the longer word come the
tokens of what is left of `b`; this is never the same as `a`'s tokens and then `b`'s.  So nothing but
a word at the very end of `a` is changed by what is appended to `a`. -/
theorem tokensOf_append (a b : String) :
    (Separate a b → Lexer.tokensOf (a ++ b) = Lexer.tokensOf a ++ Lexer.tokensOf b) ∧
    (¬ Separate a b → ∃ t u r, (Lexer.tokensOf a).getLast? = some t ∧ IsWordToken t ∧
      CutAtDelimiter b u r ∧
      Lexer.tokensOf (a ++ b) = (Lexer.tokensOf a).dropLast ++
        ⟨Word.classify (t.literal ++ u), t.literal ++ u⟩ :: Lexer.tokensOf r ∧
      Lexer.tokensOf (a ++ b) ≠ Lexer.tokensOf a ++ Lexer.tokensOf b) ∧
    (Lexer.tokensOf a).dropLast <+: Lexer.tokensOf (a ++ b) ∧
    ((∀ t, (Lexer.tokensOf a).getLast? = some t → ¬ IsWordToken t) →
      Lexer.tokensOf a <+: Lexer.tokensOf (a ++ b)) := by
  obtain ⟨u, r, hcut, hb, hu, hr⟩ := exists_cutAtDelimiter b
  simp only [separate_iff, Lexer.tokensOf_eq, String.toList_append]
  rcases ending a.toList with ⟨he, happ⟩ | ⟨ts, w, ho⟩
  · have hpre : tokens a.toList <+: tokens (a.toList ++ b.toList) := by
      rw [happ]; exact List.prefix_append _ _
    exact ⟨fun _ => happ _, fun h => absurd (.inl he) h,
      (List.dropLast_prefix _).trans hpre, fun _ => hpre⟩
  · have hab : tokens (a.toList ++ b.toList) = ts ++ .ofWord (w ++ u) :: tokens r := by
      rw [hb, ho.tokens_append u r hu hr]
    have hw : IsWordToken (.ofWord w) := isWordToken_iff.mpr ⟨w, ho.isWord, rfl⟩
    have hl : (tokens a.toList).getLast? = some (.ofWord w) := by
      rw [ho.tokens_eq, List.getLast?_concat]
    have hd : (tokens a.toList).dropLast = ts := by rw [ho.tokens_eq, List.dropLast_concat]
    refine ⟨fun hs => ho.append_of_stops (hs.resolve_left ho.not_ended), fun hs => ?_, ?_,
      fun h => absurd hw (h _ hl)⟩
    · refine ⟨.ofWord w, .ofList u, .ofList r, hl, hw, hcut, ?_, ?_⟩
      · rw [hab, hd, String.toList_ofList]
        simp [Token.ofWord]
      · have hne : u ≠ [] := by
          rintro rfl
          exact hs (.inr (hb ▸ hr))
        rw [hb]
        exact ho.append_ne hu hr hne
    · rw [hab, hd]
      exact List.prefix_append _ _

/-- A dot at the end is a symbol in `.`, and the digit is a token of its own; in `x.` it is the end
of a word, which takes in the digit. -/
theorem tokensOf_append_dot :
    (Separate "." "5" ∧
      Lexer.tokensOf ("." ++ "5") = Lexer.tokensOf "." ++ Lexer.tokensOf "5") ∧
    ¬ Separate "x." "5" ∧
      Lexer.tokensOf ("x." ++ "5") ≠ Lexer.tokensOf "x." ++ Lexer.tokensOf "5" := by
  have hs : Separate "." "5" :=
    .inr (.inr (.inr (.inl ⟨.dot, by decide +kernel, by decide +kernel⟩)))
  have hn : ¬ Separate "x." "5" := by
    rintro (h | h | h | ⟨s, h, -⟩ | h)
    · exact absurd h (by decide)
    · exact absurd h (by decide)
    · exact absurd h (by decide +kernel)
    · have e : (Lexer.tokensOf "x.").getLast? = some ⟨.illegal, "x."⟩ := by decide +kernel
      rw [e] at h
      cases h
    · exact absurd h (by decide +kernel)
  obtain ⟨t, u, r, -, -, -, -, hne⟩ := (tokensOf_append "x." "5").2.1 hn
  exact ⟨⟨hs, (tokensOf_append "." "5").1 hs⟩, hn, hne⟩

end Tokenizer
