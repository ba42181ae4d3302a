import Tokenizer.Proofs.Word.Alphabet

/-!
# Exponents without digits

A float is a mantissa, or a mantissa and an exponent.  A mantissa and the mark of an exponent is neither,
but one digit makes a float of it (`openExponents`).  A float with an exponent and another mark looks
alike, but nothing that follows makes a float of it (`reopenedExponents`).

* `hasEmptyExponent_iff`: both are taken for an exponent without digits.
* `mem_openExponents_iff`, `mem_reopenedExponents_iff`: which of the two it is can be computed.
* `concat_mem_floats_iff`: what one digit makes a float of.
-/

namespace Tokenizer.Word

open scoped Computability

/-! ### Mantissas and exponents -/

/-- `[0-9]*('.'[0-9]*)?` with a digit. -/
def mantissas : Language Char :=
  {w | w ∈ (one IsDecimal)∗ * fractions ∧ ∃ c ∈ w, IsDecimal c}

/-- `[eE]` -/
def marks : Language Char :=
  one fun c => c = 'e' ∨ c = 'E'

/-- `[eE][0-9]+` -/
def wholeExponents : Language Char :=
  marks * (one IsDecimal * (one IsDecimal)∗)

/-- A mantissa, and the mark of an exponent. -/
def openExponents : Language Char :=
  mantissas * marks

/-- A mantissa, an exponent, and the mark of another exponent. -/
def reopenedExponents : Language Char :=
  mantissas * wholeExponents * marks

variable {w m e : List Char} {d : Char} {p : Char → Prop} {l k : Language Char}

theorem exponents_eq : exponents = 1 + wholeExponents :=
  rfl

/-- A float is a mantissa, with or without an exponent. -/
theorem floats_eq : floats = mantissas + mantissas * wholeExponents := by
  have h : floats = mantissas * exponents := by
    ext w
    rw [Language.mem_mul]
    constructor
    · rintro ⟨a, f, e, rfl, ha, hf, he, hd⟩
      exact ⟨a ++ f, ⟨Language.append_mem_mul ha hf, hd⟩, e, he, rfl⟩
    · rintro ⟨m, ⟨hm, hd⟩, e, he, rfl⟩
      obtain ⟨a, ha, f, hf, rfl⟩ := Language.mem_mul.mp hm
      exact ⟨a, f, e, rfl, ha, hf, he, hd⟩
  rw [h, exponents_eq, mul_add, mul_one]

/-- A float and a mark is a mantissa and a mark, or has an exponent before the mark. -/
theorem floats_mul_marks : floats * marks = openExponents + reopenedExponents := by
  rw [floats_eq, add_mul]
  rfl

theorem mem_mul_one_iff : w ∈ l * one p ↔ ∃ v c, v ∈ l ∧ p c ∧ w = v ++ [c] := by
  rw [Language.mem_mul]
  constructor
  · rintro ⟨v, hv, _, ⟨c, hc, rfl⟩, rfl⟩
    exact ⟨v, c, hv, hc, rfl⟩
  · rintro ⟨v, c, hv, hc, rfl⟩
    exact ⟨v, hv, [c], ⟨c, hc, rfl⟩, rfl⟩

/-- What is taken for an exponent without digits: a float and a mark. -/
theorem hasEmptyExponent_iff (w : List Char) :
    hasEmptyExponent w = true ↔ w ∈ openExponents ∨ w ∈ reopenedExponents := by
  rw [← Language.mem_add, ← floats_mul_marks, marks, mem_mul_one_iff]
  rcases List.eq_nil_or_concat w with rfl | ⟨v, c, rfl⟩
  · simp [hasEmptyExponent]
  · simp only [hasEmptyExponent, List.concat_eq_append, List.getLast?_concat, List.dropLast_concat,
      Option.any_some, Bool.and_eq_true, isExponentMark_iff, isFloat_iff]
    constructor
    · rintro ⟨hc, hv⟩
      exact ⟨v, c, hv, hc, rfl⟩
    · rintro ⟨v', c', hv, hc, h⟩
      obtain ⟨rfl, e⟩ := List.append_inj' h rfl
      obtain rfl := List.singleton_inj.mp e
      exact ⟨hc, hv⟩

/-- The mark of an exponent does not stand in a mantissa. -/
theorem any_isExponentMark_of_mantissa (hm : m ∈ mantissas) : m.any isExponentMark = false := by
  obtain ⟨a, ha, f, hf, rfl⟩ := Language.mem_mul.mp hm.1
  refine List.any_eq_false.mpr fun c hc hx => ?_
  rcases isDecimal_or_dot_of_mantissa ha hf c hc with hd | rfl
  · exact not_isDecimal_of_mark (isExponentMark_iff.mp hx) hd
  · cases hx

theorem any_isExponentMark_of_open (h : w ∈ openExponents) :
    w.dropLast.any isExponentMark = false := by
  obtain ⟨m, x, hm, -, rfl⟩ := mem_mul_one_iff.mp h
  rw [List.dropLast_concat]
  exact any_isExponentMark_of_mantissa hm

theorem any_isExponentMark_of_reopened (h : w ∈ reopenedExponents) :
    w.dropLast.any isExponentMark = true := by
  obtain ⟨v, x, hv, -, rfl⟩ := mem_mul_one_iff.mp h
  obtain ⟨m, -, e, he, rfl⟩ := Language.mem_mul.mp hv
  obtain ⟨c, ds, hc, -, rfl⟩ := mem_one_mul_iff.mp he
  rw [List.dropLast_concat]
  exact List.any_eq_true.mpr ⟨c, by simp, isExponentMark_iff.mpr hc⟩

/-- An exponent is open if there is no other mark than the last. -/
theorem mem_openExponents_iff : w ∈ openExponents ↔
    hasEmptyExponent w = true ∧ w.dropLast.any isExponentMark = false := by
  constructor
  · exact fun h => ⟨(hasEmptyExponent_iff w).mpr (.inl h), any_isExponentMark_of_open h⟩
  · rintro ⟨h, hno⟩
    refine ((hasEmptyExponent_iff w).mp h).resolve_right fun hr => ?_
    rw [any_isExponentMark_of_reopened hr] at hno
    cases hno

theorem mem_reopenedExponents_iff : w ∈ reopenedExponents ↔
    hasEmptyExponent w = true ∧ w.dropLast.any isExponentMark = true := by
  constructor
  · exact fun h => ⟨(hasEmptyExponent_iff w).mpr (.inr h), any_isExponentMark_of_reopened h⟩
  · rintro ⟨h, hany⟩
    refine ((hasEmptyExponent_iff w).mp h).resolve_left fun ho => ?_
    rw [any_isExponentMark_of_open ho] at hany
    cases hany

instance : DecidablePred (· ∈ openExponents) := fun _ => decidable_of_iff _ mem_openExponents_iff.symm

instance : DecidablePred (· ∈ reopenedExponents) := fun _ =>
  decidable_of_iff _ mem_reopenedExponents_iff.symm

/-- No exponent is open and reopened. -/
theorem not_mem_openExponents_of_reopened (h : w ∈ reopenedExponents) : w ∉ openExponents := by
  intro ho
  have := any_isExponentMark_of_reopened h
  rw [any_isExponentMark_of_open ho] at this
  cases this

/-! ### One digit more -/

/-- The texts that the character `d` at the end makes texts of `l`. -/
def upTo (d : Char) (l : Language Char) : Language Char :=
  {w | w ++ [d] ∈ l}

theorem mem_upTo : w ∈ upTo d l ↔ w ++ [d] ∈ l :=
  Iff.rfl

theorem upTo_add : upTo d (l + k) = upTo d l + upTo d k :=
  rfl

theorem upTo_one : upTo d 1 = 0 := by
  ext w
  exact iff_of_false (List.append_ne_nil_of_right_ne_nil w (List.cons_ne_nil d []))
    (Language.notMem_zero w)

theorem upTo_one_of (hd : p d) : upTo d (one p) = 1 := by
  ext w
  rw [mem_upTo, Language.mem_one]
  constructor
  · rintro ⟨c, -, h⟩
    exact (List.append_eq_singleton_iff.mp h).elim And.left fun h => absurd h.2 (List.cons_ne_nil d [])
  · rintro rfl
    exact ⟨d, hd, rfl⟩

theorem upTo_one_of_not (hd : ¬ p d) : upTo d (one p) = 0 := by
  ext w
  refine iff_of_false ?_ (Language.notMem_zero w)
  rintro ⟨c, hc, h⟩
  obtain rfl : d = c := by simpa using congrArg List.getLast? h
  exact hd hc

theorem upTo_kstar (hd : p d) : upTo d (one p)∗ = (one p)∗ := by
  ext w
  rw [mem_upTo, mem_kstar_one_iff, mem_kstar_one_iff, List.forall_mem_append,
    List.forall_mem_singleton]
  exact and_iff_left hd

/-- At the end of a text in two parts is the end of the second, or of the first if the second is
empty. -/
theorem mem_upTo_mul_iff : w ∈ upTo d (l * k) ↔ w ∈ l * upTo d k ∨ [] ∈ k ∧ w ∈ upTo d l := by
  rw [mem_upTo, Language.mem_mul, Language.mem_mul]
  constructor
  · rintro ⟨u, hu, v, hv, e⟩
    rcases List.eq_nil_or_concat v with rfl | ⟨v, c, rfl⟩
    · rw [List.append_nil] at e
      subst e
      exact .inr ⟨hv, hu⟩
    · rw [List.concat_eq_append] at hv e
      rw [← List.append_assoc] at e
      obtain ⟨rfl, e'⟩ := List.append_inj' e rfl
      obtain rfl := List.singleton_inj.mp e'
      exact .inl ⟨u, hu, v, hv, rfl⟩
  · rintro (⟨u, hu, v, hv, rfl⟩ | ⟨hv, hu⟩)
    · exact ⟨u, hu, v ++ [d], hv, (List.append_assoc ..).symm⟩
    · exact ⟨w ++ [d], hu, [], hv, List.append_nil _⟩

theorem upTo_mul (hk : [] ∉ k) : upTo d (l * k) = l * upTo d k := by
  ext w
  rw [mem_upTo_mul_iff]
  exact or_iff_left fun h => hk h.1

theorem upTo_mul_of_nil_mem (hk : [] ∈ k) : upTo d (l * k) = l * upTo d k + upTo d l := by
  ext w
  rw [mem_upTo_mul_iff, Language.mem_add]
  exact or_congr_right (and_iff_right hk)

theorem nil_not_mem_one_mul : [] ∉ one p * l := by
  intro h
  obtain ⟨c, cs, -, -, h⟩ := mem_one_mul_iff.mp h
  cases h

/-- Up to a digit, a fraction is one with a dot. -/
theorem upTo_fractions (hd : IsDecimal d) :
    upTo d fractions = one (· = '.') * (one IsDecimal)∗ := by
  have hdot : upTo d (one (· = '.')) = 0 := by
    refine upTo_one_of_not ?_
    rintro rfl
    exact not_isDecimal_dot hd
  rw [fractions, upTo_add, upTo_one, zero_add, upTo_mul_of_nil_mem (Language.nil_mem_kstar _),
    upTo_kstar hd, hdot, add_zero]

/-- One digit makes a mantissa of nothing, of a dot and of a mantissa. -/
theorem mem_upTo_mantissas_iff (hd : IsDecimal d) :
    m ∈ upTo d mantissas ↔ m = [] ∨ m = ['.'] ∨ m ∈ mantissas := by
  have hpattern : upTo d ((one IsDecimal)∗ * fractions) = (one IsDecimal)∗ * fractions := by
    rw [upTo_mul_of_nil_mem (mem_fractions_iff.mpr (.inl rfl)), upTo_fractions hd, upTo_kstar hd,
      fractions, mul_add, mul_one, add_comm]
  have hm : m ∈ upTo d mantissas ↔ m ∈ (one IsDecimal)∗ * fractions := by
    rw [← hpattern]
    exact and_iff_left ⟨d, by simp, hd⟩
  rw [hm]
  constructor
  · intro hm
    obtain ⟨a, ha, f, hf, rfl⟩ := Language.mem_mul.mp hm
    by_cases hc : ∃ c ∈ a ++ f, IsDecimal c
    · exact .inr (.inr ⟨hm, hc⟩)
    · rw [exists_digit_iff ha hf, not_or, not_not, not_not] at hc
      obtain ⟨rfl, ht⟩ := hc
      rcases mem_fractions_iff.mp hf with rfl | ⟨ds, rfl, -⟩
      · exact .inl rfl
      · obtain rfl : ds = [] := ht
        exact .inr (.inl rfl)
  · have hnil : [] ∈ (one IsDecimal)∗ := Language.nil_mem_kstar _
    rintro (rfl | rfl | hm)
    · exact Language.append_mem_mul hnil (mem_fractions_iff.mpr (.inl rfl))
    · have hdot := mem_fractions_iff.mpr (.inr ⟨[], rfl, List.forall_mem_nil _⟩)
      exact Language.append_mem_mul hnil hdot
    · exact hm.1

/-- Up to a digit, an exponent is one already, or only its mark. -/
theorem upTo_wholeExponents (hd : IsDecimal d) : upTo d wholeExponents = wholeExponents + marks := by
  rw [wholeExponents, upTo_mul nil_not_mem_one_mul,
    upTo_mul_of_nil_mem (Language.nil_mem_kstar _), upTo_kstar hd, upTo_one_of hd, mul_add, mul_one]

/-- One digit makes a float of nothing, of a dot, of a float and of a mantissa with a mark. -/
theorem concat_mem_floats_iff (hd : IsDecimal d) :
    w ++ [d] ∈ floats ↔ w = [] ∨ w = ['.'] ∨ w ∈ floats ∨ w ∈ openExponents := by
  have hnil : [] ∉ wholeExponents := nil_not_mem_one_mul
  rw [← mem_upTo, floats_eq, upTo_add, upTo_mul hnil, upTo_wholeExponents hd, mul_add]
  simp only [Language.mem_add, mem_upTo_mantissas_iff hd, openExponents, or_assoc]

end Tokenizer.Word
