import Tokenizer.Proofs.Word.Alphabet

/-!
# The order of the recognisers

A word is what the first of its forms says, so that the order in which the forms are asked for matters
where a word has two of them.  That is so in two places only: a keyword has the form of an identifier,
and a run of digits has the forms of an integer and of a float.

* `overlaps`: which forms a word may have together.
* `exists_first`: of the forms that a word has, one precedes all others (`Form.Precedes`).
* `classifyBy_congr`: all orders that keep to this give a word the same kind.
* `precedence`: no other order does.
-/

namespace Tokenizer.Word

open scoped Computability

/-! ### Forms that a word has together -/

section Overlaps

variable {w : List Char}

/-- An identifier does not start as a number does. -/
theorem not_mem_floats_of_mem_identifiers (h : w ∈ identifiers) : w ∉ floats := by
  intro hf
  obtain ⟨c, cs, hc, -, rfl⟩ := mem_one_mul_iff.mp h
  obtain ⟨d, ds, e, hd⟩ := exists_cons_of_mem_floats hf
  obtain ⟨rfl, -⟩ := List.cons.inj e
  rcases hd with hd | rfl
  · exact hd.not_isStart hc
  · exact not_isPart_dot (.inl hc)

theorem not_mem_integers_of_mem_identifiers (h : w ∈ identifiers) : w ∉ integers := by
  intro hn
  obtain ⟨c, cs, hc, -, rfl⟩ := mem_one_mul_iff.mp h
  obtain ⟨d, ds, e, hd⟩ := exists_cons_of_mem_integers hn
  obtain ⟨rfl, -⟩ := List.cons.inj e
  exact hd.not_isStart hc

/-- What is an integer and a float is a run of digits. -/
theorem mem_integers_and_floats_iff :
    w ∈ integers ∧ w ∈ floats ↔ w ≠ [] ∧ ∀ c ∈ w, IsDecimal c := by
  constructor
  · rintro ⟨hn, hf⟩
    have hx := hexDigits?_eq_none (isDecimal_or_dot_or_mark_of_mem_floats hf)
    rwa [integers_eq, mem_numbers_of_no_mark hx] at hn
  · rintro ⟨hne, h⟩
    exact ⟨mem_integers_iff.mpr (.inl ⟨hne, h⟩), mem_floats_of_isDecimal hne h⟩

end Overlaps

/-- The forms that the word `v` may have together. -/
structure Overlaps (v : String) : Prop where
  keyword : ∀ k, Keyword.ofWord? v = some k → isIdentifier v.toList = true
  identifier : isIdentifier v.toList = true →
    isInteger v.toList = false ∧ isFloat v.toList = false
  number : isInteger v.toList = true ∧ isFloat v.toList = true ↔
    v.toList ≠ [] ∧ ∀ c ∈ v.toList, IsDecimal c

theorem overlaps (v : String) : Overlaps v := by
  refine ⟨fun k hk => ?_, fun hi => ?_, ?_⟩
  · rw [isIdentifier_iff, ← Keyword.ofWord?_eq_some_iff.mp hk]
    exact mem_identifiers_keyword k
  · rw [isIdentifier_iff] at hi
    rw [← Bool.not_eq_true, ← Bool.not_eq_true, isInteger_iff, isFloat_iff]
    exact ⟨not_mem_integers_of_mem_identifiers hi, not_mem_floats_of_mem_identifiers hi⟩
  · rw [isInteger_iff, isFloat_iff, mem_integers_and_floats_iff]

/-! ### The forms of a word -/

namespace Form

variable {f : Form} {v : String}

/-- The word `v` has the form `f`. -/
def Has (f : Form) (v : String) : Prop :=
  (f.kind? v).isSome = true

/-- Of two forms that a word may have together, the one that decides. -/
inductive Precedes : Form → Form → Prop
  | keyword : Precedes .keyword .identifier
  | number : Precedes .integer .float

theorem has_keyword_iff : keyword.Has v ↔ ∃ k : Keyword, k.word = v := by
  simp [Has, kind?, Option.isSome_iff_exists, Keyword.ofWord?_eq_some_iff]

theorem has_identifier_iff : identifier.Has v ↔ v.toList ∈ identifiers := by
  simp [Has, kind?, ← isIdentifier_iff]

theorem has_integer_iff : integer.Has v ↔ v.toList ∈ integers := by
  simp [Has, kind?, ← isInteger_iff]

theorem has_float_iff : float.Has v ↔ v.toList ∈ floats := by
  simp [Has, kind?, ← isFloat_iff]

/-- A word without the form of an identifier is no keyword. -/
theorem Has.identifier_of_keyword (h : keyword.Has v) : identifier.Has v := by
  obtain ⟨k, rfl⟩ := has_keyword_iff.mp h
  exact has_identifier_iff.mpr (mem_identifiers_keyword k)

theorem Has.not_integer (h : identifier.Has v) : ¬ integer.Has v := by
  rw [has_integer_iff]
  exact not_mem_integers_of_mem_identifiers (has_identifier_iff.mp h)

theorem Has.not_float (h : identifier.Has v) : ¬ float.Has v := by
  rw [has_float_iff]
  exact not_mem_floats_of_mem_identifiers (has_identifier_iff.mp h)

/-- What has the form of an identifier has otherwise at most that of a keyword. -/
theorem Has.cases_identifier (h : identifier.Has v) {g : Form} (hg : g.Has v) :
    g = keyword ∨ g = identifier := by
  cases g with
  | keyword => exact .inl rfl
  | identifier => exact .inr rfl
  | integer => exact absurd hg h.not_integer
  | float => exact absurd hg h.not_float

/-- What has another form than that of an identifier has the forms of numbers. -/
theorem Has.cases_number (h : ¬ identifier.Has v) {g : Form} (hg : g.Has v) :
    g = integer ∨ g = float := by
  cases g with
  | keyword => exact absurd hg.identifier_of_keyword h
  | identifier => exact absurd hg h
  | integer => exact .inl rfl
  | float => exact .inr rfl

end Form

/-- Of the forms that a word has, one precedes all others. -/
theorem exists_first {v : String} {g : Form} (hg : g.Has v) :
    ∃ f : Form, f.Has v ∧ ∀ g : Form, g.Has v → g = f ∨ f.Precedes g := by
  by_cases hi : Form.identifier.Has v
  · by_cases hk : Form.keyword.Has v
    · refine ⟨.keyword, hk, fun g hg => (hi.cases_identifier hg).imp_right ?_⟩
      rintro rfl
      exact .keyword
    · refine ⟨.identifier, hi, fun g hg => .inl ((hi.cases_identifier hg).resolve_left ?_)⟩
      rintro rfl
      exact hk hg
  · by_cases hn : Form.integer.Has v
    · refine ⟨.integer, hn, fun g hg => (Form.Has.cases_number hi hg).imp_right ?_⟩
      rintro rfl
      exact .number
    · have hf : ∀ g : Form, g.Has v → g = .float := by
        intro g hg
        refine (Form.Has.cases_number hi hg).resolve_left ?_
        rintro rfl
        exact hn hg
      exact ⟨.float, hf g hg ▸ hg, fun g hg => .inl (hf g hg)⟩

/-! ### Orders -/

variable {forms forms' : List Form} {f : Form} {v : String}

/-- In any order, a word is what the first of its forms says. -/
theorem classifyBy_eq_of_first (hf : f ∈ forms) (hv : f.Has v)
    (h : ∀ g, g.Has v → forms.idxOf f ≤ forms.idxOf g) :
    classifyBy forms v = (f.kind? v).getD .illegal := by
  rw [classifyBy]
  congr 1
  induction forms with
  | nil => cases hf
  | cons g forms ih =>
      by_cases hg : g = f
      · obtain ⟨k, hk⟩ := Option.isSome_iff_exists.mp hv
        rw [List.findSome?_cons, hg, hk]
      · -- the word does not have a form that stands in front of its first
        have hno : ¬ g.Has v := fun hgv => by
          have := h g hgv
          simp [hg] at this
        rw [List.findSome?_cons, Option.not_isSome_iff_eq_none.mp hno]
        refine ih (List.mem_of_ne_of_mem (Ne.symm hg) hf) fun k hk => ?_
        have hgk : g ≠ k := by
          rintro rfl
          exact hno hk
        simpa [List.idxOf_cons, hg, hgk] using h k hk

theorem classifyBy_eq_illegal (h : ∀ g : Form, ¬ g.Has v) : classifyBy forms v = .illegal := by
  have hno : forms.findSome? (Form.kind? v) = none :=
    List.findSome?_eq_none_iff.mpr fun g _ => Option.not_isSome_iff_eq_none.mp (h g)
  rw [classifyBy, hno]
  rfl

/-- The order asks for every form, and for a form that decides before the one that it precedes. -/
structure Keeps (forms : List Form) : Prop where
  mem : ∀ f : Form, f ∈ forms
  lt : ∀ f g : Form, f.Precedes g → forms.idxOf f < forms.idxOf g

/-- All orders that are kept give a word the same kind. -/
theorem classifyBy_congr (h : Keeps forms) (h' : Keeps forms') (v : String) :
    classifyBy forms v = classifyBy forms' v := by
  by_cases hv : ∃ g : Form, g.Has v
  · obtain ⟨g, hg⟩ := hv
    obtain ⟨f, hf, hfirst⟩ := exists_first hg
    have hle {forms : List Form} (h : Keeps forms) (g : Form) (hg : g.Has v) :
        forms.idxOf f ≤ forms.idxOf g := by
      rcases hfirst g hg with rfl | hp
      · exact Nat.le_refl _
      · exact (h.lt f g hp).le
    rw [classifyBy_eq_of_first (h.mem f) hf (hle h), classifyBy_eq_of_first (h'.mem f) hf (hle h')]
  · have hno := not_exists.mp hv
    rw [classifyBy_eq_illegal hno, classifyBy_eq_illegal hno]

/-- Asked for identifiers first, every keyword is one. -/
theorem classifyBy_keyword (hf : .identifier ∈ forms)
    (h : forms.idxOf .identifier < forms.idxOf .keyword) (k : Keyword) :
    classifyBy forms k.word = .identifier := by
  have hk : Form.identifier.Has k.word := Form.has_identifier_iff.mpr (mem_identifiers_keyword k)
  rw [classifyBy_eq_of_first hf hk fun g hg => ?_]
  · simp [Form.kind?, (isIdentifier_iff _).mpr (mem_identifiers_keyword k)]
  · rcases hk.cases_identifier hg with rfl | rfl
    · exact h.le
    · exact Nat.le_refl _

/-- Asked for floats first, every run of digits is one. -/
theorem classifyBy_digits (hf : .float ∈ forms)
    (h : forms.idxOf .float < forms.idxOf .integer) (hne : v.toList ≠ [])
    (hd : ∀ c ∈ v.toList, IsDecimal c) : classifyBy forms v = .floatLiteral := by
  have hfl := mem_floats_of_isDecimal hne hd
  have hi : ¬ Form.identifier.Has v := fun hi => hi.not_float (Form.has_float_iff.mpr hfl)
  rw [classifyBy_eq_of_first hf (Form.has_float_iff.mpr hfl) fun g hg => ?_]
  · simp [Form.kind?, (isFloat_iff _).mpr hfl]
  · rcases Form.Has.cases_number hi hg with rfl | rfl
    · exact h.le
    · exact Nat.le_refl _

/-- Two forms that an order asks for, one before the other. -/
theorem idxOf_lt_of_not_lt {g : Form} (hf : f ∈ forms) (hne : f ≠ g)
    (h : ¬ forms.idxOf f < forms.idxOf g) : forms.idxOf g < forms.idxOf f :=
  lt_of_le_of_ne (Nat.not_lt.mp h) fun e => hne ((List.idxOf_inj hf).mp e.symm)

/-- **The order of the recognisers.**  Keywords have the form of identifiers, runs of digits have those
of integers and of floats, and no other word has two forms.  So a word is the same by all orders in
which keywords come before identifiers and integers before floats, and by no others. -/
theorem precedence : (∀ v, Overlaps v) ∧
    ∀ forms : List Form, forms.Perm [.keyword, .identifier, .integer, .float] →
      ((∀ v, classifyBy forms v = classify v) ↔
        forms.idxOf .keyword < forms.idxOf .identifier ∧
          forms.idxOf .integer < forms.idxOf .float) := by
  refine ⟨overlaps, fun forms hp => ?_⟩
  have hall (f : Form) : f ∈ forms := hp.mem_iff.mpr (by cases f <;> decide)
  constructor
  · intro h
    constructor
    · by_contra hlt
      have hk := classifyBy_keyword (hall _) (idxOf_lt_of_not_lt (hall _) (by decide) hlt) .if
      rw [h] at hk
      exact absurd hk (by decide +kernel)
    · by_contra hlt
      have hd := classifyBy_digits (v := "0") (hall _)
        (idxOf_lt_of_not_lt (hall _) (by decide) hlt) (by decide)
        (List.forall_mem_singleton.mpr (isDigit_iff.mp rfl))
      rw [h] at hd
      exact absurd hd (by decide +kernel)
  · rintro ⟨hk, hn⟩ v
    refine classifyBy_congr ⟨hall, ?_⟩ ⟨fun f => by cases f <;> decide, ?_⟩ v
    · rintro _ _ (_ | _)
      · exact hk
      · exact hn
    · rintro _ _ (_ | _) <;> decide

/-- Asked for integers first and for identifiers last, the words are the same. -/
theorem precedence_interleaved :
    [Form.integer, .keyword, .float, .identifier].Perm [.keyword, .identifier, .integer, .float] ∧
      ∀ v, classifyBy [.integer, .keyword, .float, .identifier] v = classify v :=
  ⟨by decide, (precedence.2 _ (by decide)).mpr (by decide)⟩

end Tokenizer.Word
