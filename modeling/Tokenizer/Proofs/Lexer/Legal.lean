import Tokenizer.Proofs.Token.Findings

/-!
# Legal words

The recognisers and the lexer know nothing of each other: what ends a word is a table of bytes, and
what a legal word is made of is told by characters.  They fit except for one thing.  A dot in front
is a symbol for the lexer, so that a float may start with a dot only as a text, never as a token.

* `isPart_or_mem_floats`, `no_delimiter_of_legal`: a legal word that is no float is made of what may
  stand in an identifier, and a float has dots besides; none of that ends a word.
* `FloatParts.eq_dot_append`: a float with a dot in front is the dot, at least one digit, and an
  exponent.
* `legal_words_read`: what the lexer gives for a legal word.
-/

namespace Tokenizer

open Text Word

/-! ### What legal words are made of -/

namespace Word

theorem not_isPart_of_isDelimiterChar {c : Char} (h : isDelimiterChar c = true) : ¬ IsPart c := by
  rw [← isIdentifierPart_iff]
  rcases Bool.or_eq_true_iff.mp h with h | h
  · simp only [isBlankChar, Bool.or_eq_true, beq_iff_eq] at h
    rcases h with ((rfl | rfl) | rfl) | rfl <;> decide +kernel
  · obtain ⟨s, hs⟩ := Option.isSome_iff_exists.mp (Bool.and_eq_true_iff.mp h).2
    rw [← Symbol.ofChar?_eq_some_iff.mp hs]
    cases s <;> decide +kernel

/-- What may stand in an identifier does not end a word, and a dot does not either. -/
theorem isDelimiterChar_of_isPart_or_dot {c : Char} (h : IsPart c ∨ c = '.') :
    isDelimiterChar c = false := by
  rcases h with h | rfl
  · exact Bool.eq_false_iff.mpr fun hd => not_isPart_of_isDelimiterChar hd h
  · rfl

variable {w : List Char}

/-- A legal word is made of what may stand in an identifier, or it is a float. -/
theorem isPart_or_mem_floats (w : String) (h : classify w ≠ .illegal) :
    (∀ c ∈ w.toList, IsPart c) ∨ classify w = .floatLiteral ∧ w.toList ∈ floats := by
  have hw := hasKind_classify w
  generalize classify w = k at hw h
  cases hw with
  | keyword k hk => exact .inl (hk ▸ isPart_of_mem_identifiers (mem_identifiers_keyword k))
  | identifier _ hi => exact .inl (isPart_of_mem_identifiers hi)
  | integer _ _ hn => exact .inl (isPart_of_mem_integers hn)
  | float _ _ _ hf => exact .inr ⟨rfl, mem_floats_of_pointed hf⟩
  | illegal => exact absurd rfl h

theorem no_delimiter_of_legal {w : String} (h : classify w ≠ .illegal) :
    ∀ c ∈ w.toList, isDelimiterChar c = false := by
  rcases isPart_or_mem_floats w h with hp | ⟨-, hf⟩
  · exact fun c hc => isDelimiterChar_of_isPart_or_dot (.inl (hp c hc))
  · exact fun c hc => isDelimiterChar_of_isPart_or_dot (isPart_or_dot_of_mem_floats hf c hc)

/-- What a recogniser accepts is legal. -/
theorem classify_ne_illegal_of_isSome {w : String} {f : Form} (h : (f.kind? w).isSome = true) :
    classify w ≠ .illegal := by
  obtain ⟨k, hk⟩ := Option.isSome_iff_exists.mp h
  rw [classify, classifyBy]
  have hf : f ∈ [Form.keyword, .identifier, .integer, .float] := by cases f <;> decide
  cases e : [Form.keyword, .identifier, .integer, .float].findSome? (Form.kind? w) with
  | none =>
      rw [List.findSome?_eq_none_iff.mp e f hf] at hk
      cases hk
  | some k' =>
      obtain ⟨f', -, hf'⟩ := List.exists_of_findSome?_eq_some e
      rw [Option.getD_some]
      intro hill
      rcases Form.kind?_cases hf' with ⟨k, h⟩ | h | h | h <;> cases h.symm.trans hill

/-! ### Floats with a dot in front -/

/-- A float with a dot in front is the dot, at least one digit, and an exponent. -/
theorem FloatParts.eq_dot_append {a f e : List Char} (h : FloatParts ('.' :: w) a f e) :
    ∃ ds, ds ≠ [] ∧ (∀ c ∈ ds, IsDecimal c) ∧ w = ds ++ e := by
  obtain ⟨hw, ha, hf, he, hd⟩ := h
  -- no whole digits, since the dot is none
  obtain rfl : a = [] := by
    cases a with
    | nil => rfl
    | cons c a =>
        obtain ⟨rfl, -⟩ := List.cons.inj hw
        exact absurd (mem_kstar_one_iff.mp ha '.' List.mem_cons_self) not_isDecimal_dot
  rw [exists_digit_iff ha hf] at hd
  rcases mem_fractions_iff.mp hf with rfl | ⟨ds, rfl, hds⟩
  · exact absurd hd (by simp)
  · exact ⟨ds, by simpa using hd, fun c hc => isDigit_iff.mp (hds c hc), (List.cons.inj hw).2⟩

theorem hexDigits?_digits_append {ds e : List Char} (hds : ∀ c ∈ ds, IsDecimal c)
    (he : e ∈ exponents) : hexDigits? (ds ++ e) = none := by
  refine hexDigits?_eq_none fun c hc => ?_
  rcases List.mem_append.mp hc with hc | hc
  · exact .inl (.inl (hds c hc))
  · exact (isDecimal_or_mark_of_mem_exponents he c hc).imp_left .inl

/-- What digits and an exponent are. -/
theorem hasKind_digits_append {ds e : List Char} (hne : ds ≠ []) (hds : ∀ c ∈ ds, IsDecimal c)
    (he : e ∈ exponents) : HasKind (String.ofList (ds ++ e))
      (if e = [] then .intLiteral else .floatLiteral) := by
  obtain ⟨d, hd⟩ := List.exists_mem_of_ne_nil ds hne
  have hi : (String.ofList (ds ++ e)).toList ∉ identifiers := fun h => by
    obtain ⟨c, cs, hc, -, h⟩ := mem_one_mul_iff.mp h
    obtain ⟨c', ds, rfl⟩ := List.exists_cons_of_ne_nil hne
    obtain ⟨rfl, -⟩ := List.cons.inj ((String.toList_ofList).symm.trans h)
    exact (hds c' List.mem_cons_self).not_isStart hc
  have hk (k : Keyword) : k.word ≠ String.ofList (ds ++ e) := fun h =>
    hi (h ▸ mem_identifiers_keyword k)
  have hx := hexDigits?_digits_append hds he
  split_ifs with h
  · subst h
    refine .integer hk hi ?_
    rw [String.toList_ofList, List.append_nil]
    exact mem_integers_iff.mpr (.inl ⟨hne, hds⟩)
  · refine .float hk hi ?_ ?_ <;> rw [String.toList_ofList]
    · -- the mark of the exponent is no digit
      rw [integers_eq, mem_numbers_of_no_mark hx]
      rintro ⟨-, hall⟩
      obtain ⟨m, es, rfl⟩ := List.exists_cons_of_ne_nil h
      have hm := isDigit_iff.mpr (hall m (by simp))
      rw [no_digit_exponent he m rfl] at hm
      cases hm
    · exact ⟨ds, [], e, ⟨by simp, mem_kstar_one_iff.mpr hds, mem_fractions_iff.mpr (.inl rfl), he,
        d, by simpa using hd, hds d hd⟩, .inr h⟩

end Word

/-! ### Legal words, read -/

open Lexer

/-- What the lexer gives for the legal word `w` alone. -/
structure ReadsLegal (w : String) : Prop where
  /-- Without a dot in front it is one token, of the kind that the word has, and at most a
  hexadecimal number with foreign digits is remarked on. -/
  whole : w.toList.head? ≠ some '.' →
    (ofString w).tokenize = ([⟨classify w, w⟩, .eof], .empty) ∨
      (ofString w).tokenize = ([⟨classify w, w⟩, .eof], ⟨[.looseHex w]⟩)
  /-- With a dot in front it is a float, of which the dot is a token and the rest another. -/
  dotted : ∀ rest, w = "." ++ rest → classify w = .floatLiteral ∧ w.toList ∈ floats ∧
    ∀ a f e, FloatParts w.toList a f e → (ofString w).tokenize =
      ([.ofSymbol .dot, ⟨if e = [] then .intLiteral else .floatLiteral, rest⟩, .eof], .empty)

variable {w rest : String}

theorem tokenize_ofString_of_eq {ts : List Token} (h : tokens w.toList = ts) :
    (ofString w).tokenize = (ts ++ [.eof], .ofTokens (ts ++ [.eof])) := by
  rw [← h, ← tokenize_ofString]
  rfl

theorem tokens_of_isWord (hw : IsWord w.toList) : tokens w.toList = [⟨classify w, w⟩] := by
  have ht := tokens_word hw stops_nil
  rwa [List.append_nil, tokens_nil, Token.ofWord, String.ofList_toList] at ht

/-- A token that is not illegal is at most a number with foreign digits. -/
theorem Token.diagnose?_of_ne_illegal {t : Token} (h : t.kind ≠ .illegal) :
    t.diagnose? = none ∨ t.diagnose? = some (.looseHex t.literal) := by
  unfold diagnose?
  split
  · next hk => exact absurd hk h
  · split
    · exact .inr rfl
    · exact .inl rfl
  · exact .inl rfl

/-- A legal word without a dot in front is read as one word. -/
theorem isWord_of_legal (h : classify w ≠ .illegal) (hdot : w.toList.head? ≠ some '.') :
    IsWord w.toList := by
  refine ⟨fun e => ?_, no_delimiter_of_legal h, hdot⟩
  obtain rfl := String.toList_eq_nil_iff.mp e
  exact h (by decide +kernel)

theorem tokenize_whole (h : classify w ≠ .illegal) (hdot : w.toList.head? ≠ some '.') :
    (ofString w).tokenize = ([⟨classify w, w⟩, .eof], .empty) ∨
      (ofString w).tokenize = ([⟨classify w, w⟩, .eof], ⟨[.looseHex w]⟩) := by
  rw [tokenize_ofString_of_eq (tokens_of_isWord (isWord_of_legal h hdot))]
  have heof : Token.eof.diagnose? = none := rfl
  rcases Token.diagnose?_of_ne_illegal (t := ⟨classify w, w⟩) h with hd | hd
  · exact .inl (by simp [Findings.ofTokens, Findings.empty, hd, heof])
  · exact .inr (by simp [Findings.ofTokens, hd, heof])

example : (ofString "0xZZ").tokenize =
    ([⟨.intLiteral, "0xZZ"⟩, .eof], ⟨[.looseHex "0xZZ"]⟩) := by
  decide +kernel

/-- A float with a dot in front is the dot for the lexer, and then a number. -/
theorem tokenize_dotted {a f e : List Char} (h : FloatParts ('.' :: rest.toList) a f e) :
    (ofString ("." ++ rest)).tokenize =
      ([.ofSymbol .dot, ⟨if e = [] then .intLiteral else .floatLiteral, rest⟩, .eof], .empty) := by
  obtain ⟨ds, hne, hds, hrest⟩ := h.eq_dot_append
  have hx := hexDigits?_digits_append hds h.exponent_mem
  have hk := (hasKind_digits_append hne hds h.exponent_mem).classify_eq
  rw [← hrest] at hx hk
  rw [String.ofList_toList] at hk
  -- what is behind the dot is legal itself, and has no other dot in front
  have hlegal : classify rest ≠ .illegal := by
    rw [hk]
    split_ifs <;> exact Kind.noConfusion
  have hdot : rest.toList.head? ≠ some '.' := fun hd => by
    obtain ⟨d, ds, rfl⟩ := List.exists_cons_of_ne_nil hne
    rw [hrest, List.cons_append, List.head?_cons, Option.some_inj] at hd
    exact not_isPart_dot (.inr (hd ▸ hds d List.mem_cons_self))
  have ht : tokens ("." ++ rest).toList = [.ofSymbol .dot, ⟨classify rest, rest⟩] := by
    rw [String.toList_append, ← tokens_of_isWord (isWord_of_legal hlegal hdot)]
    exact tokens_symbol .dot rest.toList
  rw [tokenize_ofString_of_eq ht, hk]
  have hloose : isLooseHex rest.toList = false := by rw [isLooseHex, hx]
  split_ifs <;>
    simp [Findings.ofTokens, Findings.empty, Token.diagnose?, hloose, Token.eof, Token.ofSymbol]

theorem readsLegal (w : String) (h : classify w ≠ .illegal) : ReadsLegal w := by
  refine ⟨tokenize_whole h, ?_⟩
  rintro rest rfl
  have hw : ("." ++ rest).toList = '.' :: rest.toList := String.toList_append
  obtain ⟨hk, hf⟩ := (isPart_or_mem_floats _ h).resolve_left fun hp =>
    not_isPart_dot (hp '.' (by simp [hw]))
  exact ⟨hk, hf, fun a f e hp => tokenize_dotted (hw ▸ hp)⟩

/-- A word of a text does not start with a dot. -/
theorem no_dot_of_floatLiteral {source : String} {t : Token} (h : t ∈ (ofString source).tokenize.1)
    (hk : t.kind = .floatLiteral) : t.literal.toList.head? ≠ some '.' := by
  rcases mem_tokenize_ofString.mp h with h | rfl
  · rcases Text.mem_tokens h with ⟨s, rfl⟩ | ⟨w, hw, rfl⟩
    · cases hk
    · simpa [Token.ofWord] using hw.no_leading_dot
  · cases hk

/-- **Legal words.**  The lexer reads a legal word as one token, except that it takes a dot in front
off; nothing that a recogniser accepts holds the end of a word; and no float that the lexer gives
starts with a dot. -/
theorem legal_words_read :
    (∀ w, classify w ≠ .illegal → ReadsLegal w) ∧
    (∀ w (f : Form), (f.kind? w).isSome = true → ∀ b ∈ bytes w, isDelimiter b = false) ∧
    ∀ source, ∀ t ∈ (ofString source).tokenize.1, t.kind = .floatLiteral →
      t.literal.toList.head? ≠ some '.' := by
  refine ⟨readsLegal, fun w f hf => ?_, fun _ _ => no_dot_of_floatLiteral⟩
  exact (no_delimiter_iff w).mpr (no_delimiter_of_legal (classify_ne_illegal_of_isSome hf))

/-- `.5e3` is a dot and the float behind it, although it is a float itself. -/
theorem legal_words_read_pointed : classify ".5e3" = .floatLiteral ∧
    (ofString ".5e3").tokenize = ([.ofSymbol .dot, ⟨.floatLiteral, "5e3"⟩, .eof], .empty) := by
  have five : IsDecimal '5' := isDigit_iff.mp rfl
  have fraction : ['.', '5'] ∈ fractions :=
    mem_fractions_iff.mpr (.inr ⟨['5'], rfl, List.forall_mem_singleton.mpr rfl⟩)
  have exponent : ['e', '3'] ∈ exponents := mem_exponents_iff.mpr (by decide)
  have parts : FloatParts ".5e3".toList [] ['.', '5'] ['e', '3'] :=
    ⟨rfl, mem_kstar_one_iff.mpr nofun, fraction, exponent, '5', by decide, five⟩
  obtain ⟨hk, -, ht⟩ := (legal_words_read.1 ".5e3" (by decide +kernel)).dotted "5e3" rfl
  exact ⟨hk, ht _ _ _ parts⟩

end Tokenizer
