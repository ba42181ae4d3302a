import Tokenizer.Proofs.Lexer.Legal
import Tokenizer.Proofs.Word.Exponent
import Tokenizer.Proofs.Word.Precedence

/-!
# Suggestions for illegal words

What is suggested for an illegal word follows from its shape, and the shapes are wider than what the
suggestions say.  The one on exponents is made for every float with a mark behind it, even where the
float has an exponent already.  The one on digits in front of identifiers is made for every word with a
digit in front and a letter somewhere, whatever else stands in it.

* `suggests_text_iff`: a suggestion is made exactly if its hint is the first that applies.
* `exponentSuggestion`: the suggestion on exponents, and that it is right unless an exponent is reopened.
* `digitSuggestion`: the suggestion on digits, and that it is right unless an exponent is reopened in a
  word without dots, or the word is mixed.
-/

namespace Tokenizer

open Text Word
open scoped Computability

/-- The suggestion `s` is made for the token. -/
def Token.Suggests (t : Token) (s : String) : Prop :=
  ∃ d, t.diagnose? = some d ∧ d.suggestion = some s

variable {w : List Char} {t : Token} {source : String} {h : Hint}

/-! ### Illegal words -/

/-- What is illegal in a source is a word that no recogniser accepts. -/
theorem isWord_of_illegal (ht : t ∈ (Lexer.ofString source).tokenize.1) (hk : t.kind = .illegal) :
    IsWord t.literal.toList ∧ classify t.literal = .illegal := by
  rcases Lexer.mem_tokenize_ofString.mp ht with ht | rfl
  · rcases mem_tokens ht with ⟨s, rfl⟩ | ⟨w, hw, rfl⟩
    · cases hk
    · refine ⟨?_, hk⟩
      rw [Token.ofWord, String.toList_ofList]
      exact hw
  · cases hk

theorem not_mem_of_illegal {v : String} (h : classify v = .illegal) :
    v.toList ∉ integers ∧ v.toList ∉ floats := by
  have hv := hasKind_classify v
  rw [h] at hv
  cases hv with
  | illegal _ _ hn hf => exact ⟨hn, fun h => (mem_integers_or_pointed h).elim hn hf⟩

/-- What has the kind of a float is a float that is no integer. -/
theorem classify_eq_floatLiteral_iff {v : String} :
    classify v = .floatLiteral ↔ v.toList ∈ floats ∧ v.toList ∉ integers := by
  constructor
  · intro h
    have hv := hasKind_classify v
    rw [h] at hv
    cases hv with
    | float _ _ hn hf => exact ⟨mem_floats_of_pointed hf, hn⟩
  · rintro ⟨hf, hn⟩
    have hi : v.toList ∉ identifiers := fun hi => not_mem_floats_of_mem_identifiers hi hf
    have hk (k : Keyword) : k.word ≠ v := by
      rintro rfl
      exact hi (mem_identifiers_keyword k)
    exact (HasKind.float hk hi hn ((mem_integers_or_pointed hf).resolve_left hn)).classify_eq

/-! ### Hints -/

theorem Hint.text_injective : Function.Injective Hint.text := by
  intro h h'
  cases h <;> cases h' <;> decide

/-- A suggestion is made exactly if its hint is the one for the word. -/
theorem suggests_text_iff (hk : t.kind = .illegal) :
    t.Suggests h.text ↔ Hint.ofWord? t.literal.toList = some h := by
  have hd : t.diagnose? = some (.illegalToken t.literal) := by rw [Token.diagnose?, hk]
  rw [Token.Suggests, hd]
  simp [Diagnostic.illegalToken, Hint.text_injective.eq_iff]

theorem isBareHexMark_iff : isBareHexMark w = true ↔ w = ['0', 'x'] ∨ w = ['0', 'X'] := by
  rw [isBareHexMark, beq_iff_eq, hexDigits?_eq_some_iff]

theorem isLedByDigit_iff : isLedByDigit w = true ↔
    (∃ c ∈ w.head?, IsDecimal c) ∧ ∃ c ∈ w, IsStart c := by
  simp [isLedByDigit, Option.any_eq_true, isDigit_iff, isIdentifierStart_iff]

theorem not_hasEmptyExponent_of_bare (hw : isBareHexMark w = true) : hasEmptyExponent w = false := by
  rcases isBareHexMark_iff.mp hw with rfl | rfl <;> decide

theorem ofWord?_eq_missingExponentDigit_iff :
    Hint.ofWord? w = some .missingExponentDigit ↔ hasEmptyExponent w = true := by
  unfold Hint.ofWord?
  split
  · next hb => simp [not_hasEmptyExponent_of_bare hb]
  · split
    · next he => simp [he]
    · next he => split <;> simp [he]

theorem ofWord?_eq_leadingDigit_iff : Hint.ofWord? w = some .leadingDigit ↔
    isBareHexMark w = false ∧ hasEmptyExponent w = false ∧ isLedByDigit w = true := by
  unfold Hint.ofWord?
  split
  · next hb => simp [hb]
  · next hb =>
      split
      · next he => simp [he]
      · next he => split <;> simp_all

/-! ### Exponents -/

/-- The suggestion on exponents is made exactly where the exponent lacks a digit. -/
structure Token.OpenExponent (t : Token) : Prop where
  suggests_iff : t.Suggests "an exponent needs at least one digit" ↔
    t.literal.toList ∈ openExponents
  /-- It lacks a digit if any one digit makes a float of the token. -/
  suggests_iff_completed : t.Suggests "an exponent needs at least one digit" ↔
    ∀ d, IsDecimal d → classify (t.literal.push d) = .floatLiteral

/-- When the suggestion on exponents is made for the illegal token `t`. -/
structure ExponentSuggestion (t : Token) : Prop where
  suggests_iff : t.Suggests "an exponent needs at least one digit" ↔
    t.literal.toList ∈ openExponents ∨ t.literal.toList ∈ reopenedExponents
  /-- One digit, and it does not matter which, makes a float of an open exponent and of no other
  illegal word. -/
  completed_iff : ∀ d, IsDecimal d →
    (classify (t.literal.push d) = .floatLiteral ↔ t.literal.toList ∈ openExponents)
  /-- The suggestion is right unless an exponent is reopened. -/
  right_iff : t.OpenExponent ↔ t.literal.toList ∉ reopenedExponents

theorem suggests_exponent_iff (hk : t.kind = .illegal) :
    t.Suggests "an exponent needs at least one digit" ↔
      t.literal.toList ∈ openExponents ∨ t.literal.toList ∈ reopenedExponents :=
  (suggests_text_iff (h := .missingExponentDigit) hk).trans
    (ofWord?_eq_missingExponentDigit_iff.trans (hasEmptyExponent_iff _))

/-- One digit makes a float of an illegal word exactly if its exponent is open. -/
theorem classify_push_iff {v : String} (hw : IsWord v.toList) (hv : classify v = .illegal) {d : Char}
    (hd : IsDecimal d) : classify (v.push d) = .floatLiteral ↔ v.toList ∈ openExponents := by
  obtain ⟨-, hf⟩ := not_mem_of_illegal hv
  rw [classify_eq_floatLiteral_iff, String.toList_push, concat_mem_floats_iff hd]
  constructor
  · rintro ⟨h | h | h | h, -⟩
    · exact absurd h hw.ne_nil
    · exact absurd (congrArg List.head? h) hw.no_leading_dot
    · exact absurd h hf
    · exact h
  · intro h
    refine ⟨.inr (.inr (.inr h)), fun hn => ?_⟩
    -- an integer and a float would be a run of digits, but the mark is none
    obtain ⟨m, x, -, hx, e⟩ := mem_mul_one_iff.mp h
    have hall := (mem_integers_and_floats_iff.mp
      ⟨hn, (concat_mem_floats_iff hd).mpr (.inr (.inr (.inr h)))⟩).2
    exact not_isDecimal_of_mark hx (hall x (by simp [e]))

theorem openExponent_iff (hw : IsWord t.literal.toList) (hv : classify t.literal = .illegal)
    (hk : t.kind = .illegal) : t.OpenExponent ↔ t.literal.toList ∉ reopenedExponents := by
  constructor
  · intro h hr
    exact not_mem_openExponents_of_reopened hr
      (h.suggests_iff.mp ((suggests_exponent_iff hk).mpr (.inr hr)))
  · intro hr
    have hs : t.Suggests "an exponent needs at least one digit" ↔ t.literal.toList ∈ openExponents :=
      (suggests_exponent_iff hk).trans (or_iff_left hr)
    refine ⟨hs, hs.trans ⟨fun h d hd => (classify_push_iff hw hv hd).mpr h, fun h => ?_⟩⟩
    have hd : IsDecimal '0' := isDigit_iff.mp rfl
    exact (classify_push_iff hw hv hd).mp (h '0' hd)

/-- **The suggestion on exponents.**  It is made for a float with the mark of an exponent behind it.
That is right where the float has no exponent, and wrong where it has one. -/
theorem exponentSuggestion (ht : t ∈ (Lexer.ofString source).tokenize.1) (hk : t.kind = .illegal) :
    ExponentSuggestion t := by
  obtain ⟨hw, hv⟩ := isWord_of_illegal ht hk
  exact ⟨suggests_exponent_iff hk, fun _ => classify_push_iff hw hv, openExponent_iff hw hv hk⟩

/-- For `2.5E` the suggestion on exponents is right. -/
theorem exponentSuggestion_pointed :
    ⟨.illegal, "2.5E"⟩ ∈ (Lexer.ofString "x = 2.5E;").tokenize.1 ∧
      ExponentSuggestion ⟨.illegal, "2.5E"⟩ ∧ Token.OpenExponent ⟨.illegal, "2.5E"⟩ := by
  have ht : ⟨.illegal, "2.5E"⟩ ∈ (Lexer.ofString "x = 2.5E;").tokenize.1 := by decide +kernel
  have h := exponentSuggestion ht rfl
  exact ⟨ht, h, h.right_iff.mpr (by decide +kernel)⟩

/-- The exponent of `1e5e` is reopened: no digit mends it, though one is asked for. -/
theorem not_openExponent_reopened :
    ⟨.illegal, "1e5e"⟩ ∈ (Lexer.ofString "1e5e").tokenize.1 ∧
      ¬ Token.OpenExponent ⟨.illegal, "1e5e"⟩ := by
  refine ⟨by decide +kernel, fun h => ?_⟩
  have hs : Token.Suggests ⟨.illegal, "1e5e"⟩ "an exponent needs at least one digit" :=
    (suggests_exponent_iff rfl).mpr (.inr (by decide +kernel))
  exact absurd (h.suggests_iff.mp hs) (by decide +kernel)

/-! ### Digits in front -/

/-- `[0-9][_a-zA-Z0-9\p{L}]*` -/
def digitLed : Language Char :=
  one IsDecimal * (one IsPart)∗

/-- A word with a digit in front that has a letter in it, and something that may not stand in an
identifier. -/
structure IsMixed (w : List Char) : Prop where
  digit : ∃ c ∈ w.head?, IsDecimal c
  letter : ∃ c ∈ w, IsStart c
  foreign : ∃ c ∈ w, ¬ IsPart c

theorem mem_digitLed_iff : w ∈ digitLed ↔ (∃ c ∈ w.head?, IsDecimal c) ∧ ∀ c ∈ w, IsPart c := by
  rw [digitLed, mem_one_mul_iff]
  simp only [mem_kstar_one_iff]
  constructor
  · rintro ⟨c, cs, hc, hcs, rfl⟩
    exact ⟨⟨c, rfl, hc⟩, List.forall_mem_cons.mpr ⟨.inr hc, hcs⟩⟩
  · rintro ⟨⟨c, hc, hd⟩, hall⟩
    obtain ⟨cs, rfl⟩ := List.head?_eq_some_iff.mp hc
    exact ⟨c, cs, hd, (List.forall_mem_cons.mp hall).2, rfl⟩

theorem IsMixed.not_mem_digitLed (h : IsMixed w) : w ∉ digitLed := by
  intro hd
  obtain ⟨c, hc, hno⟩ := h.foreign
  exact hno ((mem_digitLed_iff.mp hd).2 c hc)

/-- What is taken for an identifier with a digit in front, if it is no integer. -/
theorem isLedByDigit_iff_of_not_mem_integers (hn : w ∉ integers) :
    isLedByDigit w = true ↔ w ∈ digitLed ∨ IsMixed w := by
  rw [isLedByDigit_iff]
  constructor
  · rintro ⟨hd, hs⟩
    by_cases hall : ∀ c ∈ w, IsPart c
    · exact .inl (mem_digitLed_iff.mpr ⟨hd, hall⟩)
    · exact .inr ⟨hd, hs, by simpa using hall⟩
  · rintro (h | h)
    · obtain ⟨hd, hall⟩ := mem_digitLed_iff.mp h
      refine ⟨hd, ?_⟩
      by_contra hs
      -- without a letter it would be a run of digits
      obtain ⟨c, hc, -⟩ := hd
      refine hn (mem_integers_iff.mpr (.inl ⟨List.ne_nil_of_mem (List.mem_of_mem_head? hc), ?_⟩))
      exact fun c hc => (hall c hc).resolve_left fun hst => hs ⟨c, hc, hst⟩
    · exact ⟨h.digit, h.letter⟩

/-- When the suggestion on digits in front is made for the illegal token `t`. -/
structure DigitSuggestion (t : Token) : Prop where
  suggests_iff : t.Suggests "identifiers cannot start with a digit" ↔
    (t.literal.toList ∈ digitLed ∨ IsMixed t.literal.toList) ∧
      t.literal.toList ∉ reopenedExponents
  /-- It is made exactly for the identifiers with a digit in front, unless such a word has a reopened
  exponent, or the word is mixed and has none. -/
  right_iff : (t.Suggests "identifiers cannot start with a digit" ↔ t.literal.toList ∈ digitLed) ↔
    (t.literal.toList ∈ digitLed → t.literal.toList ∉ reopenedExponents) ∧
      (IsMixed t.literal.toList → t.literal.toList ∈ reopenedExponents)

theorem suggests_digit_iff (hk : t.kind = .illegal) (hn : t.literal.toList ∉ integers)
    (hx : t.literal ≠ "0x") (hX : t.literal ≠ "0X") (ho : t.literal.toList ∉ openExponents) :
    t.Suggests "identifiers cannot start with a digit" ↔
      (t.literal.toList ∈ digitLed ∨ IsMixed t.literal.toList) ∧
        t.literal.toList ∉ reopenedExponents := by
  have hb : isBareHexMark t.literal.toList = false := by
    rw [← Bool.not_eq_true, isBareHexMark_iff]
    rintro (h | h)
    · exact hx (String.toList_inj.mp h)
    · exact hX (String.toList_inj.mp h)
  have he : hasEmptyExponent t.literal.toList = false ↔ t.literal.toList ∉ reopenedExponents := by
    rw [← Bool.not_eq_true, hasEmptyExponent_iff, or_iff_right ho]
  refine (suggests_text_iff (h := .leadingDigit) hk).trans ?_
  rw [ofWord?_eq_leadingDigit_iff, isLedByDigit_iff_of_not_mem_integers hn, he, and_iff_right hb,
    and_comm]

/-- **The suggestion on digits in front.**  It is made for every illegal word that has a digit in front
and a letter in it, unless another suggestion comes first.  It is wrong where something else stands in
the word, as in a number with two dots, and it is missed where an exponent is reopened. -/
theorem digitSuggestion (ht : t ∈ (Lexer.ofString source).tokenize.1) (hk : t.kind = .illegal)
    (hx : t.literal ≠ "0x") (hX : t.literal ≠ "0X") (ho : t.literal.toList ∉ openExponents) :
    DigitSuggestion t := by
  have hs := suggests_digit_iff hk (not_mem_of_illegal (isWord_of_illegal ht hk).2).1 hx hX ho
  refine ⟨hs, fun h => ⟨fun hd => (hs.mp (h.mpr hd)).2, fun hm => ?_⟩, ?_⟩
  · by_contra hr
    exact hm.not_mem_digitLed (h.mp (hs.mpr ⟨.inr hm, hr⟩))
  · rintro ⟨hd, hm⟩
    constructor
    · intro h
      obtain ⟨h | h, hr⟩ := hs.mp h
      · exact h
      · exact absurd (hm h) hr
    · exact fun h => hs.mpr ⟨.inl h, hd h⟩

theorem digitSuggestion_lives :
    ⟨.illegal, "9lives"⟩ ∈ (Lexer.ofString "+9lives\n").tokenize.1 ∧
      "9lives".toList ∉ openExponents ∧ DigitSuggestion ⟨.illegal, "9lives"⟩ := by
  have ht : ⟨.illegal, "9lives"⟩ ∈ (Lexer.ofString "+9lives\n").tokenize.1 := by decide +kernel
  have ho : "9lives".toList ∉ openExponents := by decide +kernel
  exact ⟨ht, ho, digitSuggestion ht rfl (by decide) (by decide) ho⟩

/-- `1.2.x` gets the suggestion though it is no identifier with a digit in front, and `1e5e` is one and
does not get it. -/
theorem not_suggests_iff_digitLed :
    (⟨.illegal, "1.2.x"⟩ ∈ (Lexer.ofString "1.2.x").tokenize.1 ∧ "1.2.x".toList ∉ openExponents ∧
      ¬ (Token.Suggests ⟨.illegal, "1.2.x"⟩ "identifiers cannot start with a digit" ↔
        "1.2.x".toList ∈ digitLed)) ∧
    (⟨.illegal, "1e5e"⟩ ∈ (Lexer.ofString "1e5e").tokenize.1 ∧ "1e5e".toList ∉ openExponents ∧
      ¬ (Token.Suggests ⟨.illegal, "1e5e"⟩ "identifiers cannot start with a digit" ↔
        "1e5e".toList ∈ digitLed)) := by
  refine ⟨⟨by decide +kernel, by decide +kernel, fun h => ?_⟩,
    by decide +kernel, by decide +kernel, fun h => ?_⟩
  · have hs := h.mp ((suggests_text_iff (h := .leadingDigit) rfl).mpr (by decide +kernel))
    exact not_isPart_dot ((mem_digitLed_iff.mp hs).2 '.' (by decide))
  · have hd : "1e5e".toList ∈ digitLed := by
      refine mem_digitLed_iff.mpr ⟨⟨'1', rfl, isDigit_iff.mp rfl⟩, fun c hc => ?_⟩
      exact isIdentifierPart_iff.mp
        (List.all_eq_true.mp (by decide +kernel : "1e5e".toList.all isIdentifierPart = true) c hc)
    exact absurd ((suggests_text_iff (h := .leadingDigit) rfl).mp (h.mpr hd)) (by decide +kernel)

end Tokenizer
