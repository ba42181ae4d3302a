import Mathlib.Computability.Language
import Tokenizer.Word
import Tokenizer.Proofs.Text.Run

/-!
# The languages of words

The three patterns of words as languages: `identifiers`, `integers` and `floats`.  A float is said to
be one by the existence of its parts (`FloatParts`), not by the way in which they are found.

* `isIdentifier_iff`, `isInteger_iff`, `isFloat_iff`: each recogniser accepts exactly its language.
  The one for floats takes the longest run of digits twice and never goes back; that is enough,
  because neither a dot nor an exponent mark is a digit (`splitFraction_append`).
* `classify_languages`: the kind of a word is that of the first language it is in.  Only a float with
  a dot or an exponent comes as far as that: one without them is an integer
  (`mem_integers_or_pointed`).
-/

namespace Tokenizer.Word

open Text
open scoped Computability

/-! ### Classes of characters -/

/-- `[0-9]` -/
def IsDecimal (c : Char) : Prop :=
  '0' ≤ c ∧ c ≤ '9'

/-- `[a-zA-Z]` -/
def IsLatin (c : Char) : Prop :=
  'a' ≤ c ∧ c ≤ 'z' ∨ 'A' ≤ c ∧ c ≤ 'Z'

/-- `[_a-zA-Z\p{L}]`, where only a character beyond ASCII is looked up in the table of letters. -/
def IsStart (c : Char) : Prop :=
  c = '_' ∨ IsLatin c ∨ 128 ≤ c.toNat ∧ isLetter c = true

/-- `[_a-zA-Z0-9\p{L}]` -/
def IsPart (c : Char) : Prop :=
  IsStart c ∨ IsDecimal c

theorem isDigit_iff {c : Char} : c.isDigit = true ↔ IsDecimal c := by
  simp only [Char.isDigit, Bool.and_eq_true, decide_eq_true_eq]
  exact Iff.rfl

theorem isAlphanum_iff {c : Char} : c.isAlphanum = true ↔ IsLatin c ∨ IsDecimal c := by
  have hl : c.isLower = true ↔ 'a' ≤ c ∧ c ≤ 'z' := by
    delta Char.isLower
    rw [Bool.and_eq_true, decide_eq_true_eq, decide_eq_true_eq]
    exact Iff.rfl
  have hu : c.isUpper = true ↔ 'A' ≤ c ∧ c ≤ 'Z' := decide_eq_true_iff
  change (c.isUpper || c.isLower || c.isDigit) = true ↔ _
  rw [Bool.or_eq_true, Bool.or_eq_true, isDigit_iff, hl, hu]
  exact or_congr_left or_comm

/-- The letters of ASCII are the first two ranges of the table. -/
theorem isLetter_iff_of_lt {c : Char} (hc : c.toNat < 128) : isLetter c = true ↔ IsLatin c := by
  have h : ∀ n < 128, searchRanges n letters.ranges =
      (decide (97 ≤ n ∧ n ≤ 122) || decide (65 ≤ n ∧ n ≤ 90)) := by decide +kernel
  rw [isLetter, CodeRanges.contains, h _ hc, Bool.or_eq_true, decide_eq_true_eq, decide_eq_true_eq]
  exact Iff.rfl

theorem isIdentifierStart_iff {c : Char} : isIdentifierStart c = true ↔ IsStart c := by
  rw [isIdentifierStart, Bool.or_eq_true, beq_iff_eq, IsStart]
  refine or_congr_right ?_
  by_cases hc : c.toNat < 128
  · rw [isLetter_iff_of_lt hc]
    exact ⟨.inl, fun h => h.resolve_right fun h' => absurd hc (Nat.not_lt.mpr h'.1)⟩
  · refine ⟨fun h => .inr ⟨Nat.not_lt.mp hc, h⟩, fun h => ?_⟩
    rcases h with (⟨-, h⟩ | ⟨-, h⟩) | ⟨-, h⟩
    · exact absurd (Nat.lt_of_le_of_lt (show c.toNat ≤ 122 from h) (by decide)) hc
    · exact absurd (Nat.lt_of_le_of_lt (show c.toNat ≤ 90 from h) (by decide)) hc
    · exact h

theorem isIdentifierPart_iff {c : Char} : isIdentifierPart c = true ↔ IsPart c := by
  rw [isIdentifierPart, Bool.or_eq_true, isIdentifierStart_iff, isDigit_iff, IsPart]

theorem isExponentMark_iff {c : Char} : isExponentMark c = true ↔ c = 'e' ∨ c = 'E' := by
  simp [isExponentMark]

/-! ### Languages -/

/-- The texts of one character of a class. -/
def one (p : Char → Prop) : Language Char :=
  {w | ∃ c, p c ∧ w = [c]}

/-- `[_a-zA-Z\p{L}][_a-zA-Z0-9\p{L}]*` -/
def identifiers : Language Char :=
  one IsStart * (one IsPart)∗

/-- `[0-9]+` or `0[xX][0-9A-Za-z]+` -/
def integers : Language Char :=
  one IsDecimal * (one IsDecimal)∗ +
    one (· = '0') * one (fun c => c = 'x' ∨ c = 'X') *
      (one (fun c => IsLatin c ∨ IsDecimal c) * (one fun c => IsLatin c ∨ IsDecimal c)∗)

/-- `('.'[0-9]*)?` -/
def fractions : Language Char :=
  1 + one (· = '.') * (one IsDecimal)∗

/-- `([eE][0-9]+)?` -/
def exponents : Language Char :=
  1 + one (fun c => c = 'e' ∨ c = 'E') * (one IsDecimal * (one IsDecimal)∗)

/-- The text `w` is whole digits, then a fraction and then an exponent, any of which may be empty, with
at least one digit in front of the exponent. -/
structure FloatParts (w whole fraction exponent : List Char) : Prop where
  eq_append : w = whole ++ fraction ++ exponent
  whole_mem : whole ∈ (one IsDecimal)∗
  fraction_mem : fraction ∈ fractions
  exponent_mem : exponent ∈ exponents
  exists_digit : ∃ c ∈ whole ++ fraction, IsDecimal c

/-- `[0-9]*('.'[0-9]*)?([eE][0-9]+)?` with a digit in front of the exponent. -/
def floats : Language Char :=
  {w | ∃ whole fraction exponent, FloatParts w whole fraction exponent}

/-- The floats that have a dot or an exponent. -/
def pointedFloats : Language Char :=
  {w | ∃ whole fraction exponent,
    FloatParts w whole fraction exponent ∧ (fraction ≠ [] ∨ exponent ≠ [])}

variable {p : Char → Prop} {w : List Char}

theorem mem_one_mul_iff {l : Language Char} :
    w ∈ one p * l ↔ ∃ c cs, p c ∧ cs ∈ l ∧ w = c :: cs := by
  rw [Language.mem_mul]
  constructor
  · rintro ⟨_, ⟨c, hc, rfl⟩, cs, hcs, rfl⟩
    exact ⟨c, cs, hc, hcs, rfl⟩
  · rintro ⟨c, cs, hc, hcs, rfl⟩
    exact ⟨[c], ⟨c, hc, rfl⟩, cs, hcs, rfl⟩

theorem mem_kstar_one_iff : w ∈ (one p)∗ ↔ ∀ c ∈ w, p c := by
  rw [Language.mem_kstar]
  constructor
  · rintro ⟨pieces, rfl, h⟩ c hc
    obtain ⟨piece, hp, hc⟩ := List.mem_flatten.mp hc
    obtain ⟨d, hd, rfl⟩ := h piece hp
    exact List.mem_singleton.mp hc ▸ hd
  · intro h
    refine ⟨w.map fun c => [c], (List.flatMap_singleton' w).symm, fun piece hp => ?_⟩
    obtain ⟨c, hc, rfl⟩ := List.mem_map.mp hp
    exact ⟨c, h c hc, rfl⟩

/-- One character of a class or more. -/
theorem mem_one_mul_kstar_iff : w ∈ one p * (one p)∗ ↔ w ≠ [] ∧ ∀ c ∈ w, p c := by
  rw [mem_one_mul_iff]
  simp only [mem_kstar_one_iff]
  constructor
  · rintro ⟨c, cs, hc, hcs, rfl⟩
    exact ⟨List.cons_ne_nil c cs, List.forall_mem_cons.mpr ⟨hc, hcs⟩⟩
  · rintro ⟨hne, h⟩
    obtain ⟨c, cs, rfl⟩ := List.exists_cons_of_ne_nil hne
    obtain ⟨hc, hcs⟩ := List.forall_mem_cons.mp h
    exact ⟨c, cs, hc, hcs, rfl⟩

/-! ### Identifiers and integers -/

theorem isIdentifier_iff (w : List Char) : isIdentifier w = true ↔ w ∈ identifiers := by
  rw [identifiers, mem_one_mul_iff]
  cases w with
  | nil => simp [isIdentifier]
  | cons c cs => simp [isIdentifier, isIdentifierStart_iff, isIdentifierPart_iff, mem_kstar_one_iff]

/-- Every keyword has the form of an identifier. -/
theorem mem_identifiers_keyword (k : Keyword) : k.word.toList ∈ identifiers := by
  rw [← isIdentifier_iff]
  cases k <;> decide +kernel

theorem hexDigits?_eq_some_iff {ds : List Char} :
    hexDigits? w = some ds ↔ w = '0' :: 'x' :: ds ∨ w = '0' :: 'X' :: ds := by
  fun_cases hexDigits? w <;> simp_all

/-- `[0-9]+` or `0[xX]p+`, with a class `p` of hexadecimal digits. -/
def numbers (p : Char → Prop) : Language Char :=
  one IsDecimal * (one IsDecimal)∗ +
    one (· = '0') * one (fun c => c = 'x' ∨ c = 'X') * (one p * (one p)∗)

theorem mem_numbers_iff : w ∈ numbers p ↔ (w ≠ [] ∧ ∀ c ∈ w, IsDecimal c) ∨
    ∃ ds, (w = '0' :: 'x' :: ds ∨ w = '0' :: 'X' :: ds) ∧ ds ≠ [] ∧ ∀ c ∈ ds, p c := by
  rw [numbers, Language.mem_add, mem_one_mul_kstar_iff, mul_assoc, mem_one_mul_iff]
  refine or_congr_right ⟨?_, ?_⟩
  · rintro ⟨_, _, rfl, h, rfl⟩
    obtain ⟨x, ds, hx, hds, rfl⟩ := mem_one_mul_iff.mp h
    exact ⟨ds, hx.imp (fun h => by rw [h]) (fun h => by rw [h]), mem_one_mul_kstar_iff.mp hds⟩
  · rintro ⟨ds, h, hds⟩
    have hds' := mem_one_mul_kstar_iff.mpr hds
    rcases h with rfl | rfl
    · exact ⟨'0', _, rfl, mem_one_mul_iff.mpr ⟨'x', ds, .inl rfl, hds', rfl⟩, rfl⟩
    · exact ⟨'0', _, rfl, mem_one_mul_iff.mpr ⟨'X', ds, .inr rfl, hds', rfl⟩, rfl⟩

/-- A number without a mark is decimal. -/
theorem mem_numbers_of_no_mark (h : hexDigits? w = none) :
    w ∈ numbers p ↔ w ≠ [] ∧ ∀ c ∈ w, IsDecimal c := by
  have hno (ds : List Char) : ¬ (w = '0' :: 'x' :: ds ∨ w = '0' :: 'X' :: ds) := by
    rw [← hexDigits?_eq_some_iff, h]
    exact nofun
  simp [mem_numbers_iff, hno]

/-- A number with a mark has digits of the class behind it: a mark is not a decimal digit. -/
theorem mem_numbers_of_mark {ds : List Char} (h : hexDigits? w = some ds) :
    w ∈ numbers p ↔ ds ≠ [] ∧ ∀ c ∈ ds, p c := by
  have hno : ¬ ∀ c ∈ w, IsDecimal c := by
    rcases hexDigits?_eq_some_iff.mp h with rfl | rfl
    · exact fun h => absurd (isDigit_iff.mpr (h 'x' (by simp))) (by decide)
    · exact fun h => absurd (isDigit_iff.mpr (h 'X' (by simp))) (by decide)
  have hds (es : List Char) : (w = '0' :: 'x' :: es ∨ w = '0' :: 'X' :: es) ↔ ds = es := by
    rw [← hexDigits?_eq_some_iff, h, Option.some_inj]
  simp [mem_numbers_iff, hno, hds]

theorem integers_eq : integers = numbers fun c => IsLatin c ∨ IsDecimal c :=
  rfl

theorem mem_integers_iff : w ∈ integers ↔ (w ≠ [] ∧ ∀ c ∈ w, IsDecimal c) ∨
    ∃ ds, (w = '0' :: 'x' :: ds ∨ w = '0' :: 'X' :: ds) ∧
      ds ≠ [] ∧ ∀ c ∈ ds, IsLatin c ∨ IsDecimal c :=
  mem_numbers_iff

/-- An integer is made of letters and digits of ASCII. -/
theorem isLatin_or_isDecimal_of_mem_integers (h : w ∈ integers) :
    ∀ c ∈ w, IsLatin c ∨ IsDecimal c := by
  rcases mem_integers_iff.mp h with ⟨-, h⟩ | ⟨ds, h, -, hds⟩
  · exact fun c hc => .inr (h c hc)
  · rcases h with rfl | rfl <;>
      exact List.forall_mem_cons.mpr ⟨.inr (isDigit_iff.mp rfl), List.forall_mem_cons.mpr
        ⟨.inl (by unfold IsLatin; decide), hds⟩⟩

theorem isInteger_iff (w : List Char) : isInteger w = true ↔ w ∈ integers := by
  rw [integers_eq, isInteger]
  cases h : hexDigits? w with
  | none => simp [mem_numbers_of_no_mark h, isDigit_iff]
  | some ds => simp [mem_numbers_of_mark h, isAlphanum_iff]

/-! ### Floats -/

theorem mem_fractions_iff {f : List Char} :
    f ∈ fractions ↔ f = [] ∨ ∃ ds, f = '.' :: ds ∧ ∀ c ∈ ds, c.isDigit = true := by
  rw [fractions, Language.mem_add, Language.mem_one, mem_one_mul_iff]
  refine or_congr_right ⟨?_, ?_⟩
  · rintro ⟨_, ds, rfl, hds, rfl⟩
    exact ⟨ds, rfl, fun c hc => isDigit_iff.mpr (mem_kstar_one_iff.mp hds c hc)⟩
  · rintro ⟨ds, rfl, hds⟩
    exact ⟨'.', ds, rfl, mem_kstar_one_iff.mpr fun c hc => isDigit_iff.mp (hds c hc), rfl⟩

theorem mem_exponents_iff {e : List Char} : e ∈ exponents ↔ isExponent e = true := by
  rw [exponents, Language.mem_add, Language.mem_one, mem_one_mul_iff]
  cases e with
  | nil => simp [isExponent]
  | cons c ds =>
      have hds : ds ∈ one IsDecimal * (one IsDecimal)∗ ↔
          (!ds.isEmpty) = true ∧ ds.all Char.isDigit = true := by
        simp [mem_one_mul_kstar_iff, isDigit_iff]
      rw [isExponent, Bool.and_eq_true, Bool.and_eq_true, isExponentMark_iff, and_assoc, ← hds]
      constructor
      · rintro (h | ⟨m, ds, hm, hds, h⟩)
        · cases h
        · cases h
          exact ⟨hm, hds⟩
      · rintro ⟨hm, hds⟩
        exact .inr ⟨c, ds, hm, hds, rfl⟩

/-- A run of digits ends in front of an exponent. -/
theorem no_digit_exponent {e : List Char} (he : e ∈ exponents) (c : Char) (hc : c ∈ e.head?) :
    c.isDigit = false := by
  rw [exponents, Language.mem_add, Language.mem_one, mem_one_mul_iff] at he
  rcases he with rfl | ⟨m, ds, hm, -, rfl⟩
  · cases hc
  · obtain rfl : m = c := Option.some.inj hc
    rcases hm with rfl | rfl <;> rfl

/-- A run of digits ends in front of a fraction and an exponent. -/
theorem no_digit_fraction {f e : List Char} (hf : f ∈ fractions) (he : e ∈ exponents) (c : Char)
    (hc : c ∈ (f ++ e).head?) : c.isDigit = false := by
  rcases mem_fractions_iff.mp hf with rfl | ⟨ds, rfl, -⟩
  · exact no_digit_exponent he c hc
  · obtain rfl : '.' = c := Option.some.inj hc
    rfl

/-- A fraction in front of an exponent is split off whole. -/
theorem splitFraction_append {f e : List Char} (hf : f ∈ fractions) (he : e ∈ exponents) :
    splitFraction (f ++ e) = (f.tail, e) := by
  rcases mem_fractions_iff.mp hf with rfl | ⟨ds, rfl, hds⟩
  · rw [List.nil_append]
    unfold splitFraction
    split
    -- an exponent does not start with a dot
    · cases mem_exponents_iff.mp he
    · rfl
  · have hno := no_digit_exponent he
    rw [List.cons_append, splitFraction, takeWhile_append_eq_left hds hno,
      dropWhile_append_eq_right hds hno]
    rfl

/-- What is split off is a fraction. -/
theorem exists_splitFraction (cs : List Char) :
    ∃ f ∈ fractions, splitFraction cs = (f.tail, (splitFraction cs).2) ∧
      cs = f ++ (splitFraction cs).2 := by
  unfold splitFraction
  split
  · next ds =>
      refine ⟨'.' :: ds.takeWhile Char.isDigit, mem_fractions_iff.mpr (.inr ⟨_, rfl, ?_⟩), rfl, ?_⟩
      · exact fun c hc => List.mem_takeWhile_imp hc
      · rw [List.cons_append, List.takeWhile_append_dropWhile]
  · exact ⟨[], mem_fractions_iff.mpr (.inl rfl), rfl, rfl⟩

/-- A dot is no digit, so that the digits of a fraction are those behind its head. -/
theorem exists_digit_iff {a f : List Char} (ha : a ∈ (one IsDecimal)∗) (hf : f ∈ fractions) :
    (∃ c ∈ a ++ f, IsDecimal c) ↔ a ≠ [] ∨ f.tail ≠ [] := by
  have hdot : ¬ IsDecimal '.' := fun h => absurd (isDigit_iff.mpr h) (by decide)
  constructor
  · rintro ⟨c, hc, hd⟩
    rcases List.mem_append.mp hc with hc | hc
    · exact .inl (List.ne_nil_of_mem hc)
    · rcases mem_fractions_iff.mp hf with rfl | ⟨ds, rfl, -⟩
      · cases hc
      · rcases List.mem_cons.mp hc with rfl | hc
        · exact absurd hd hdot
        · exact .inr (List.ne_nil_of_mem hc)
  · rintro (h | h)
    · obtain ⟨c, hc⟩ := List.exists_mem_of_ne_nil a h
      exact ⟨c, List.mem_append_left _ hc, mem_kstar_one_iff.mp ha c hc⟩
    · obtain ⟨c, hc⟩ := List.exists_mem_of_ne_nil _ h
      rcases mem_fractions_iff.mp hf with rfl | ⟨ds, rfl, hds⟩
      · cases hc
      · exact ⟨c, by simp [show c ∈ ds from hc], isDigit_iff.mp (hds c hc)⟩

/-- What the recogniser of floats says of a text in parts. -/
theorem isFloat_append {a f e : List Char} (ha : a ∈ (one IsDecimal)∗) (hf : f ∈ fractions)
    (he : e ∈ exponents) : isFloat (a ++ f ++ e) = true ↔ ∃ c ∈ a ++ f, IsDecimal c := by
  have ha' : ∀ c ∈ a, c.isDigit = true := fun c hc => isDigit_iff.mpr (mem_kstar_one_iff.mp ha c hc)
  have hno := no_digit_fraction hf he
  rw [isFloat, List.append_assoc, takeWhile_append_eq_left ha' hno,
    dropWhile_append_eq_right ha' hno, splitFraction_append hf he, exists_digit_iff ha hf]
  simp [mem_exponents_iff.mp he]

/-- A float has parts: those that the recogniser splits it into. -/
theorem exists_floatParts (h : isFloat w = true) : ∃ a f e, FloatParts w a f e := by
  have ha : w.takeWhile Char.isDigit ∈ (one IsDecimal)∗ :=
    mem_kstar_one_iff.mpr fun c hc => isDigit_iff.mp (List.mem_takeWhile_imp hc)
  obtain ⟨f, hf, hs, hr⟩ := exists_splitFraction (w.dropWhile Char.isDigit)
  have hw : w = w.takeWhile Char.isDigit ++ f ++ (splitFraction (w.dropWhile Char.isDigit)).2 := by
    rw [List.append_assoc, ← hr, List.takeWhile_append_dropWhile]
  have he : (splitFraction (w.dropWhile Char.isDigit)).2 ∈ exponents := by
    rw [isFloat, hs, Bool.and_eq_true] at h
    exact mem_exponents_iff.mpr h.2
  rw [hw] at h
  exact ⟨_, f, _, hw, ha, hf, he, (isFloat_append ha hf he).mp h⟩

theorem isFloat_iff (w : List Char) : isFloat w = true ↔ w ∈ floats := by
  constructor
  · exact exists_floatParts
  · rintro ⟨a, f, e, rfl, ha, hf, he, hd⟩
    exact (isFloat_append ha hf he).mpr hd

/-! ### The kind of a word -/

/-- A float without a dot and without an exponent is a run of digits. -/
theorem mem_integers_or_pointed (h : w ∈ floats) : w ∈ integers ∨ w ∈ pointedFloats := by
  obtain ⟨a, f, e, h⟩ := h
  by_cases hf : f = []
  · by_cases he : e = []
    · obtain ⟨rfl, ha, -, -, hd⟩ := h
      subst hf he
      refine .inl (mem_integers_iff.mpr (.inl ?_))
      simp only [List.append_nil] at hd ⊢
      obtain ⟨c, hc, -⟩ := hd
      exact ⟨List.ne_nil_of_mem hc, mem_kstar_one_iff.mp ha⟩
    · exact .inr ⟨a, f, e, h, .inr he⟩
  · exact .inr ⟨a, f, e, h, .inl hf⟩

theorem mem_floats_of_pointed (h : w ∈ pointedFloats) : w ∈ floats := by
  obtain ⟨a, f, e, h, -⟩ := h
  exact ⟨a, f, e, h⟩

/-- What a word is: the keyword that is written so, or else what the first language it is in says. -/
inductive HasKind (w : String) : Kind → Prop where
  | keyword (k : Keyword) (h : k.word = w) : HasKind w (.keyword k)
  | identifier (hk : ∀ k : Keyword, k.word ≠ w) (h : w.toList ∈ identifiers) :
      HasKind w .identifier
  | integer (hk : ∀ k : Keyword, k.word ≠ w) (hi : w.toList ∉ identifiers)
      (h : w.toList ∈ integers) : HasKind w .intLiteral
  | float (hk : ∀ k : Keyword, k.word ≠ w) (hi : w.toList ∉ identifiers)
      (hn : w.toList ∉ integers) (h : w.toList ∈ pointedFloats) : HasKind w .floatLiteral
  | illegal (hk : ∀ k : Keyword, k.word ≠ w) (hi : w.toList ∉ identifiers)
      (hn : w.toList ∉ integers) (hf : w.toList ∉ pointedFloats) : HasKind w .illegal

/-- The kind of a word, by the forms in their order. -/
theorem classify_eq (w : String) : classify w = ((Keyword.ofWord? w).map Kind.keyword).getD
    (if isIdentifier w.toList then .identifier else if isInteger w.toList then .intLiteral
      else if isFloat w.toList then .floatLiteral else .illegal) := by
  rw [classify, classifyBy]
  simp only [List.findSome?_cons, List.findSome?_nil, Form.kind?]
  cases Keyword.ofWord? w with
  | some k => rfl
  | none => split_ifs <;> rfl

theorem hasKind_classify (w : String) : HasKind w (classify w) := by
  rw [classify_eq]
  cases hk : Keyword.ofWord? w with
  | some k => exact .keyword k (Keyword.ofWord?_eq_some_iff.mp hk)
  | none =>
      have hk' : ∀ k : Keyword, k.word ≠ w := fun k h => by
        rw [← Keyword.ofWord?_eq_some_iff, hk] at h
        cases h
      rw [Option.map_none, Option.getD_none]
      split_ifs with hi hn hf
      · exact .identifier hk' ((isIdentifier_iff _).mp hi)
      · exact .integer hk' (hi ∘ (isIdentifier_iff _).mpr) ((isInteger_iff _).mp hn)
      · have hn' := hn ∘ (isInteger_iff _).mpr
        exact .float hk' (hi ∘ (isIdentifier_iff _).mpr) hn'
          ((mem_integers_or_pointed ((isFloat_iff _).mp hf)).resolve_left hn')
      · exact .illegal hk' (hi ∘ (isIdentifier_iff _).mpr) (hn ∘ (isInteger_iff _).mpr)
          (hf ∘ (isFloat_iff _).mpr ∘ mem_floats_of_pointed)

/-- What has a kind is classified so. -/
theorem HasKind.classify_eq {w : String} {k : Kind} (h : HasKind w k) : classify w = k := by
  have hno (hk : ∀ k : Keyword, k.word ≠ w) : Keyword.ofWord? w = none :=
    Option.eq_none_iff_forall_ne_some.mpr fun k h => hk k (Keyword.ofWord?_eq_some_iff.mp h)
  cases h with
  | keyword k h => simp [Word.classify_eq, Keyword.ofWord?_eq_some_iff.mpr h]
  | identifier hk h => simp [Word.classify_eq, hno hk, isIdentifier_iff, h]
  | integer hk hi h => simp [Word.classify_eq, hno hk, isIdentifier_iff, hi, isInteger_iff, h]
  | float hk hi hn h =>
      simp [Word.classify_eq, hno hk, isIdentifier_iff, hi, isInteger_iff, hn, isFloat_iff,
        mem_floats_of_pointed h]
  | illegal hk hi hn hf =>
      have hf' : w.toList ∉ floats := fun h => (mem_integers_or_pointed h).elim hn hf
      simp [Word.classify_eq, hno hk, isIdentifier_iff, hi, isInteger_iff, hn, isFloat_iff, hf']

/-- **The languages of words.**  Each recogniser accepts exactly the words of its language, and the
kind of a word is that of the first language it is in. -/
theorem classify_languages (w : String) :
    (isIdentifier w.toList = true ↔ w.toList ∈ identifiers) ∧
    (isInteger w.toList = true ↔ w.toList ∈ integers) ∧
    (isFloat w.toList = true ↔ w.toList ∈ floats) ∧
    ∀ k, classify w = k ↔ HasKind w k := by
  refine ⟨isIdentifier_iff _, isInteger_iff _, isFloat_iff _, fun k => ⟨?_, HasKind.classify_eq⟩⟩
  rintro rfl
  exact hasKind_classify w

end Tokenizer.Word
