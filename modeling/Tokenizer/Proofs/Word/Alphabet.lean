import Tokenizer.Proofs.Word.Language

/-!
# What words are made of

The characters of the words of each language, and the character that such a word starts with.

* `isPart_of_mem_identifiers`, `isPart_of_mem_integers`: identifiers and integers are made of what may
  stand in an identifier.
* `isDecimal_or_dot_or_mark_of_mem_floats`, `hexDigits?_eq_none`: a float is made of digits, dots and
  exponent marks, so that no hexadecimal number is one.
* `exists_cons_of_mem_integers`, `exists_cons_of_mem_floats`: numbers start with a digit, except that a
  float may start with a dot; no identifier does either.
-/

namespace Tokenizer.Word

open scoped Computability

instance : DecidablePred IsLatin := fun c =>
  inferInstanceAs (Decidable ('a' ≤ c ∧ c ≤ 'z' ∨ 'A' ≤ c ∧ c ≤ 'Z'))

/-! ### Classes that do not meet -/

theorem not_isDecimal_of_isLatin {c : Char} (h : IsLatin c) : ¬ IsDecimal c := by
  intro hd
  have h₉ : c.toNat ≤ 57 := hd.2
  rcases h with ⟨h, -⟩ | ⟨h, -⟩
  · exact absurd (Nat.le_trans (show 97 ≤ c.toNat from h) h₉) (by decide)
  · exact absurd (Nat.le_trans (show 65 ≤ c.toNat from h) h₉) (by decide)

theorem IsDecimal.not_isStart {c : Char} (h : IsDecimal c) : ¬ IsStart c := by
  have h₉ : c.toNat ≤ 57 := h.2
  rintro (rfl | hl | ⟨hb, -⟩)
  · exact absurd h₉ (by decide)
  · exact not_isDecimal_of_isLatin hl h
  · omega

theorem not_isPart_dot : ¬ IsPart '.' := by
  rw [← isIdentifierPart_iff]
  decide +kernel

theorem not_isDecimal_dot : ¬ IsDecimal '.' :=
  fun h => not_isPart_dot (.inr h)

theorem isPart_of_isLatin {c : Char} (h : IsLatin c) : IsPart c :=
  .inl (.inr (.inl h))

theorem isLatin_of_mark {c : Char} (h : c = 'e' ∨ c = 'E') : IsLatin c := by
  rcases h with rfl | rfl <;> decide

theorem not_isDecimal_of_mark {c : Char} (h : c = 'e' ∨ c = 'E') : ¬ IsDecimal c :=
  not_isDecimal_of_isLatin (isLatin_of_mark h)

/-! ### The characters of a word -/

variable {w : List Char}

theorem isPart_of_mem_identifiers (h : w ∈ identifiers) : ∀ c ∈ w, IsPart c := by
  obtain ⟨c, cs, hc, hcs, rfl⟩ := mem_one_mul_iff.mp h
  exact List.forall_mem_cons.mpr ⟨.inl hc, mem_kstar_one_iff.mp hcs⟩

theorem isPart_of_mem_integers (h : w ∈ integers) : ∀ c ∈ w, IsPart c :=
  fun c hc => (isLatin_or_isDecimal_of_mem_integers h c hc).elim isPart_of_isLatin .inr

/-- An exponent is made of digits and its mark. -/
theorem isDecimal_or_mark_of_mem_exponents {e : List Char} (he : e ∈ exponents) :
    ∀ c ∈ e, IsDecimal c ∨ c = 'e' ∨ c = 'E' := by
  rw [exponents, Language.mem_add, Language.mem_one, mem_one_mul_iff] at he
  rcases he with rfl | ⟨m, ds, hm, hds, rfl⟩
  · intro c hc
    cases hc
  · have hds := (mem_one_mul_kstar_iff.mp hds).2
    exact List.forall_mem_cons.mpr ⟨.inr hm, fun c hc => .inl (hds c hc)⟩

/-- A mantissa is made of digits and its dot. -/
theorem isDecimal_or_dot_of_mantissa {a f : List Char} (ha : a ∈ (one IsDecimal)∗)
    (hf : f ∈ fractions) : ∀ c ∈ a ++ f, IsDecimal c ∨ c = '.' := by
  intro c hc
  rcases List.mem_append.mp hc with hc | hc
  · exact .inl (mem_kstar_one_iff.mp ha c hc)
  · rcases mem_fractions_iff.mp hf with rfl | ⟨ds, rfl, hds⟩
    · cases hc
    · rcases List.mem_cons.mp hc with rfl | hc
      · exact .inr rfl
      · exact .inl (isDigit_iff.mp (hds c hc))

/-- A float is made of digits, dots and exponent marks. -/
theorem isDecimal_or_dot_or_mark_of_mem_floats (h : w ∈ floats) :
    ∀ c ∈ w, (IsDecimal c ∨ c = '.') ∨ c = 'e' ∨ c = 'E' := by
  obtain ⟨a, f, e, rfl, ha, hf, he, -⟩ := h
  intro c hc
  rcases List.mem_append.mp hc with hc | hc
  · exact .inl (isDecimal_or_dot_of_mantissa ha hf c hc)
  · exact (isDecimal_or_mark_of_mem_exponents he c hc).imp_left .inl

theorem isPart_or_dot_of_mem_floats (h : w ∈ floats) : ∀ c ∈ w, IsPart c ∨ c = '.' := by
  intro c hc
  rcases isDecimal_or_dot_or_mark_of_mem_floats h c hc with (hd | hd) | hm
  · exact .inl (.inr hd)
  · exact .inr hd
  · exact .inl (isPart_of_isLatin (isLatin_of_mark hm))

/-- A run of digits is a float. -/
theorem mem_floats_of_isDecimal (hne : w ≠ []) (h : ∀ c ∈ w, IsDecimal c) : w ∈ floats := by
  obtain ⟨c, hc⟩ := List.exists_mem_of_ne_nil w hne
  have hf : [] ∈ fractions := mem_fractions_iff.mpr (.inl rfl)
  have he : [] ∈ exponents := mem_exponents_iff.mpr rfl
  exact ⟨w, [], [], by simp, mem_kstar_one_iff.mpr h, hf, he, c, by simpa using hc, h c hc⟩

/-- The mark of a hexadecimal number is none of the characters of a float. -/
theorem hexDigits?_eq_none (h : ∀ c ∈ w, (IsDecimal c ∨ c = '.') ∨ c = 'e' ∨ c = 'E') :
    hexDigits? w = none := by
  have hx : ∀ x, x.isDigit = false → x ≠ '.' → x ≠ 'e' → x ≠ 'E' → x ∉ w := by
    intro x hd h₁ h₂ h₃ hm
    rcases h x hm with (hx | hx) | hx | hx
    · rw [isDigit_iff.mpr hx] at hd
      cases hd
    · exact h₁ hx
    · exact h₂ hx
    · exact h₃ hx
  refine Option.eq_none_iff_forall_ne_some.mpr fun ds h => ?_
  rcases hexDigits?_eq_some_iff.mp h with rfl | rfl
  · exact hx 'x' rfl (by decide) (by decide) (by decide) (by simp)
  · exact hx 'X' rfl (by decide) (by decide) (by decide) (by simp)

/-! ### The first character of a word -/

/-- An integer starts with a digit. -/
theorem exists_cons_of_mem_integers (h : w ∈ integers) : ∃ c cs, w = c :: cs ∧ IsDecimal c := by
  rcases mem_integers_iff.mp h with ⟨hne, hall⟩ | ⟨ds, hw, -, -⟩
  · obtain ⟨c, cs, rfl⟩ := List.exists_cons_of_ne_nil hne
    exact ⟨c, cs, rfl, hall c List.mem_cons_self⟩
  · rcases hw with rfl | rfl <;> exact ⟨_, _, rfl, isDigit_iff.mp rfl⟩

/-- A float starts with a digit or with a dot. -/
theorem exists_cons_of_mem_floats (h : w ∈ floats) :
    ∃ c cs, w = c :: cs ∧ (IsDecimal c ∨ c = '.') := by
  obtain ⟨a, f, e, rfl, ha, hf, -, hd⟩ := h
  obtain ⟨d, hd, -⟩ := hd
  obtain ⟨c, cs, hcs⟩ := List.exists_cons_of_ne_nil (List.ne_nil_of_mem hd)
  rw [hcs]
  exact ⟨c, cs ++ e, rfl, isDecimal_or_dot_of_mantissa ha hf c (by simp [hcs])⟩

end Tokenizer.Word
