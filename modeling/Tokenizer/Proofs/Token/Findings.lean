import Tokenizer.Proofs.Lexer.Reading
import Tokenizer.Proofs.Word.Alphabet

/-!
# What there is to say about tokens

Every illegal token is an error, every integer literal with a foreign hexadecimal digit is a warning,
and nothing else is said.  A recogniser says which digits are foreign; in an integer literal these
are the letters beyond `f`, since what has the kind of an integer literal is in the language of
integers.

* `mem_tokens`: a token of a text is a symbol or a word, so that none of them is the end of the input.
* `isLooseHex_iff`: the foreign digits of an integer.
* `errorCount_ofTokens`, `warningCount_ofTokens`: the errors and the warnings, counted by the tokens
  that they are about.
-/

namespace Tokenizer

open Word

/-! ### The tokens of a text -/

theorem Text.mem_tokens {cs : List Char} {t : Token} (h : t ∈ tokens cs) :
    (∃ s, t = .ofSymbol s) ∨ ∃ w, IsWord w ∧ t = .ofWord w := by
  induction cs using Text.induction with
  | gap g hg =>
      rw [tokens_of_isGap hg] at h
      cases h
  | symbol g s r hg ih =>
      rw [tokens_gap hg, tokens_symbol] at h
      rcases List.mem_cons.mp h with rfl | h
      · exact .inl ⟨s, rfl⟩
      · exact ih h
  | word g w r hg hw hr ih =>
      rw [tokens_gap hg, tokens_word hw hr] at h
      rcases List.mem_cons.mp h with rfl | h
      · exact .inr ⟨w, hw, rfl⟩
      · exact ih h

/-- No token of a text ends the input. -/
theorem Text.isEof_of_mem_tokens {cs : List Char} {t : Token} (h : t ∈ tokens cs) :
    t.isEof = false := by
  rcases mem_tokens h with ⟨s, rfl⟩ | ⟨w, -, rfl⟩
  · exact Token.isEof_ofSymbol s
  · exact Token.isEof_ofWord w

/-- An integer literal of a text is in the language of integers. -/
theorem Text.mem_integers_of_mem_tokens {cs : List Char} {t : Token} (h : t ∈ tokens cs)
    (hk : t.kind = .intLiteral) : t.literal.toList ∈ integers := by
  rcases mem_tokens h with ⟨s, rfl⟩ | ⟨w, -, rfl⟩
  · cases hk
  · have hw := hasKind_classify (String.ofList w)
    rw [show classify (String.ofList w) = .intLiteral from hk] at hw
    cases hw with
    | integer _ _ h => exact h

/-- The tokens of a source are those of its text, and then the end of the input. -/
theorem Lexer.mem_tokenize_ofString {source : String} {t : Token} :
    t ∈ (ofString source).tokenize.1 ↔ t ∈ Text.tokens source.toList ∨ t = .eof := by
  rw [tokenize_ofString, List.mem_append, List.mem_singleton]

/-- The integer literals among the tokens of a source are in the language of integers. -/
theorem Lexer.mem_integers_of_mem_tokenize {source : String} {t : Token}
    (h : t ∈ (ofString source).tokenize.1) (hk : t.kind = .intLiteral) :
    t.literal.toList ∈ integers := by
  rcases mem_tokenize_ofString.mp h with h | rfl
  · exact Text.mem_integers_of_mem_tokens h hk
  · cases hk

/-! ### Foreign digits -/

/-- `[a-fA-F]` -/
def IsHexLetter (c : Char) : Prop :=
  'a' ≤ c ∧ c ≤ 'f' ∨ 'A' ≤ c ∧ c ≤ 'F'

instance : DecidablePred IsHexLetter := fun c =>
  inferInstanceAs (Decidable ('a' ≤ c ∧ c ≤ 'f' ∨ 'A' ≤ c ∧ c ≤ 'F'))

/-- An integer literal with a hexadecimal mark and then, among its digits, a letter that is not a
hexadecimal one. -/
def Token.IsLooseHex (t : Token) : Prop :=
  t.kind = .intLiteral ∧ ∃ ds, (t.literal.toList = '0' :: 'x' :: ds ∨
    t.literal.toList = '0' :: 'X' :: ds) ∧ ∃ c ∈ ds, IsLatin c ∧ ¬ IsHexLetter c

instance : DecidablePred Token.IsLooseHex := fun t =>
  decidable_of_iff (t.kind = .intLiteral ∧
    (hexDigits? t.literal.toList).any (·.any fun c => IsLatin c ∧ ¬ IsHexLetter c) = true) (by
      simp [Token.IsLooseHex, ← hexDigits?_eq_some_iff, Option.any_eq_true])

theorem isHexDigit_iff {c : Char} : isHexDigit c = true ↔ IsDecimal c ∨ IsHexLetter c := by
  simp [isHexDigit, IsHexLetter, isDigit_iff, or_assoc]

/-- In an integer, the digits that are not hexadecimal are letters. -/
theorem isLooseHex_iff {w : List Char} (hw : w ∈ integers) : isLooseHex w = true ↔
    ∃ ds, (w = '0' :: 'x' :: ds ∨ w = '0' :: 'X' :: ds) ∧ ∃ c ∈ ds, IsLatin c ∧ ¬ IsHexLetter c := by
  rw [← isInteger_iff, isInteger] at hw
  simp only [← hexDigits?_eq_some_iff, isLooseHex]
  cases h : hexDigits? w with
  | none => simp
  | some ds =>
      rw [h] at hw
      have hds : ∀ c ∈ ds, IsLatin c ∨ IsDecimal c := by
        simpa [isAlphanum_iff] using (Bool.and_eq_true_iff.mp hw).2
      have hex : (!ds.all isHexDigit) = true ↔ ∃ c ∈ ds, ¬ (IsDecimal c ∨ IsHexLetter c) := by
        simp [← isHexDigit_iff]
      simp only [hex, Option.some_inj, exists_eq_left']
      refine exists_congr fun c => and_congr_right fun hc => not_or.trans ?_
      constructor
      · exact fun h => ⟨(hds c hc).resolve_right h.1, h.2⟩
      · exact fun h => ⟨not_isDecimal_of_isLatin h.1, h.2⟩

/-! ### Counts -/

theorem Token.isError_diagnose? (t : Token) :
    (t.diagnose?.map Diagnostic.isError).getD false = decide (t.kind = .illegal) := by
  unfold diagnose?
  split
  · next h => rw [h]; rfl
  · next h => rw [h]; split <;> rfl
  · next h _ => simpa using h

/-- There is something to say about the illegal tokens, which are errors, and about the integer
literals with a foreign digit. -/
theorem Token.isSome_diagnose?_iff {t : Token}
    (h : t.kind = .intLiteral → t.literal.toList ∈ integers) :
    t.diagnose?.isSome = true ↔ t.kind = .illegal ∨ t.IsLooseHex := by
  unfold diagnose? IsLooseHex
  split
  · next hk => simp [hk]
  · next hk =>
      simp only [hk, true_and, ← isLooseHex_iff (h hk)]
      split <;> simp_all
  · next hi hn => simp [show t.kind ≠ .illegal from hi, show t.kind ≠ .intLiteral from hn]

/-- The errors are the illegal tokens. -/
theorem Findings.errorCount_ofTokens (ts : List Token) :
    (ofTokens ts).errorCount = ts.countP (·.kind = .illegal) := by
  rw [errorCount, ofTokens, List.countP_filterMap]
  exact List.countP_congr fun t _ => by rw [Token.isError_diagnose?]

/-- The findings are the illegal tokens and the integer literals with a foreign digit. -/
theorem Findings.count_ofTokens {ts : List Token}
    (h : ∀ t ∈ ts, t.kind = .intLiteral → t.literal.toList ∈ integers) :
    (ofTokens ts).count = ts.countP (·.kind = .illegal) + ts.countP Token.IsLooseHex := by
  rw [count, ofTokens, List.length_filterMap_eq_countP]
  induction ts with
  | nil => rfl
  | cons t ts ih =>
      have ht := Token.isSome_diagnose?_iff (h t List.mem_cons_self)
      have hl : t.IsLooseHex → t.kind ≠ .illegal := fun hl => by simp [hl.1]
      simp only [List.countP_cons, ih fun u hu => h u (List.mem_cons_of_mem t hu), ht,
        decide_eq_true_eq]
      by_cases hi : t.kind = .illegal
      · simp [hi, mt hl (not_not_intro hi)]
        omega
      · simp [hi]
        omega

/-- The warnings are the integer literals with a foreign digit. -/
theorem Findings.warningCount_ofTokens {ts : List Token}
    (h : ∀ t ∈ ts, t.kind = .intLiteral → t.literal.toList ∈ integers) :
    (ofTokens ts).warningCount = ts.countP Token.IsLooseHex := by
  rw [warningCount, count_ofTokens h, errorCount_ofTokens, Nat.add_sub_cancel_left]

theorem Findings.hasErrors_ofTokens (ts : List Token) :
    (ofTokens ts).hasErrors = true ↔ ∃ t ∈ ts, t.kind = .illegal := by
  rw [hasErrors, List.any_eq_true, ← List.countP_pos_iff]
  change 0 < (ofTokens ts).errorCount ↔ _
  simp [errorCount_ofTokens, List.countP_pos_iff]

theorem Findings.isEmpty_ofTokens {ts : List Token}
    (h : ∀ t ∈ ts, t.kind = .intLiteral → t.literal.toList ∈ integers) :
    (ofTokens ts).isEmpty = true ↔ ∀ t ∈ ts, t.kind ≠ .illegal ∧ ¬ t.IsLooseHex := by
  rw [isEmpty, List.isEmpty_iff_length_eq_zero]
  change (ofTokens ts).count = 0 ↔ _
  simp [count_ofTokens h, forall_and]

end Tokenizer
