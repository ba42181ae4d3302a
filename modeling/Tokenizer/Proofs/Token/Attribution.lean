import Tokenizer.Proofs.Token.Findings

/-!
# The token that a diagnostic is about

A diagnostic says nothing of where it belongs.  It is found by its place: of the tokens that there is
something to say about (`Token.IsSuspicious`), the first has the first diagnostic, the second has the
second, and no diagnostic is left over (`Attributed`).

* `isNumeral_iff`: the integer literals that no warning is due for are those that are numerals of
  their base.
* `forall₂_diagnostics`: token by token, what is said and of what.
* `attributed_tokenize`: the diagnostics of a source are those of its tokens.
-/

namespace Tokenizer

open Word

/-! ### Numerals -/

/-- `[0-9]+` or `0[xX][0-9a-fA-F]+` -/
def Word.numerals : Language Char :=
  numbers fun c => IsDecimal c ∨ IsHexLetter c

/-- Whether an integer literal can be read in its base. -/
def Word.isNumeral (w : List Char) : Bool :=
  isInteger w && !isLooseHex w

theorem isLatin_of_isHexLetter {c : Char} (h : IsHexLetter c) : IsLatin c :=
  h.imp (fun h => ⟨h.1, Char.le_trans h.2 (by decide)⟩) fun h => ⟨h.1, Char.le_trans h.2 (by decide)⟩

theorem isNumeral_iff (w : List Char) : isNumeral w = true ↔ w ∈ numerals := by
  rw [isNumeral, Bool.and_eq_true, isInteger_iff, integers_eq, numerals, isLooseHex]
  cases h : hexDigits? w with
  | none => simp [mem_numbers_of_no_mark h]
  | some ds =>
      -- a hexadecimal digit is one of the characters that may stand behind the mark
      have hd (c : Char) : IsDecimal c ∨ IsHexLetter c → IsLatin c ∨ IsDecimal c := fun hc =>
        hc.symm.imp isLatin_of_isHexLetter id
      simp only [mem_numbers_of_mark h, Bool.not_not, List.all_eq_true, isHexDigit_iff]
      constructor
      · rintro ⟨⟨hne, -⟩, hx⟩
        exact ⟨hne, hx⟩
      · rintro ⟨hne, hx⟩
        exact ⟨⟨hne, fun c hc => hd c (hx c hc)⟩, hx⟩

instance : DecidablePred (· ∈ numerals) := fun w => decidable_of_iff _ (isNumeral_iff w)

/-- An integer is loose exactly if it is no numeral. -/
theorem isLooseHex_iff_not_mem_numerals {w : List Char} (hw : w ∈ integers) :
    isLooseHex w = true ↔ w ∉ numerals := by
  rw [← isNumeral_iff, isNumeral, (isInteger_iff w).mpr hw]
  simp

/-! ### Tokens and their diagnostics -/

/-- An illegal token, or an integer literal that is no numeral. -/
def Token.IsSuspicious (t : Token) : Prop :=
  t.kind = .illegal ∨ t.kind = .intLiteral ∧ t.literal.toList ∉ numerals

instance : DecidablePred Token.IsSuspicious := fun t =>
  inferInstanceAs (Decidable (t.kind = .illegal ∨ t.kind = .intLiteral ∧ t.literal.toList ∉ numerals))

/-- What is said of a token: an illegal one is an error that shows its text escaped, and an integer
literal that is no numeral is a warning that shows it as it is. -/
inductive Concerns : Token → Diagnostic → Prop
  | error (w : String) (suggestion : Option String) :
      Concerns ⟨.illegal, w⟩ ⟨.error, "illegal token '" ++ Text.escape w ++ "'", suggestion⟩
  | warning (w : String) (h : w.toList ∉ numerals) :
      Concerns ⟨.intLiteral, w⟩
        ⟨.warning, "integer literal '" ++ w ++ "' contains non-hexadecimal digits", none⟩

/-- The findings `f` are those of the tokens `ts`. -/
structure Attributed (ts : List Token) (f : Findings) : Prop where
  /-- There is one diagnostic for each suspicious token, in their order, and none for another. -/
  diagnostics : List.Forall₂ Concerns (ts.filter Token.IsSuspicious) f.diagnostics
  /-- An integer literal goes without a diagnostic exactly if it is a numeral. -/
  numeral : ∀ t ∈ ts, t.kind = .intLiteral → (t.diagnose? = none ↔ t.literal.toList ∈ numerals)
  errorCount : f.errorCount = ts.countP (·.kind = .illegal)
  hasErrors : f.hasErrors = true ↔ ∃ t ∈ ts, t.kind = .illegal
  isEmpty : f.isEmpty = true ↔
    ∀ t ∈ ts, t.kind ≠ .illegal ∧ (t.kind = .intLiteral → t.literal.toList ∈ numerals)

variable {t : Token} {ts : List Token}

theorem Token.diagnose?_of_isSuspicious (hi : t.kind = .intLiteral → t.literal.toList ∈ integers)
    (h : t.IsSuspicious) : ∃ d, t.diagnose? = some d ∧ Concerns t d := by
  obtain ⟨k, w⟩ := t
  rcases h with h | ⟨h, hn⟩ <;> cases h
  · exact ⟨.illegalToken w, rfl, .error w _⟩
  · refine ⟨.looseHex w, ?_, .warning w hn⟩
    exact if_pos ((isLooseHex_iff_not_mem_numerals (hi rfl)).mpr hn)

theorem Token.diagnose?_of_not_isSuspicious
    (hi : t.kind = .intLiteral → t.literal.toList ∈ integers) (h : ¬ t.IsSuspicious) :
    t.diagnose? = none := by
  obtain ⟨hne, hn⟩ := not_or.mp h
  unfold diagnose?
  split
  · next hk => exact absurd hk hne
  · next hk => exact if_neg fun hl => hn ⟨hk, (isLooseHex_iff_not_mem_numerals (hi hk)).mp hl⟩
  · rfl

/-- **Token by token.**  Each suspicious token has the diagnostic that stands in its place. -/
theorem forall₂_diagnostics (hi : ∀ t ∈ ts, t.kind = .intLiteral → t.literal.toList ∈ integers) :
    List.Forall₂ Concerns (ts.filter Token.IsSuspicious) (Findings.ofTokens ts).diagnostics := by
  induction ts with
  | nil => exact .nil
  | cons t ts ih =>
      obtain ⟨ht, hts⟩ := List.forall_mem_cons.mp hi
      rw [Findings.ofTokens]
      by_cases h : t.IsSuspicious
      · obtain ⟨d, hd, hc⟩ := Token.diagnose?_of_isSuspicious ht h
        rw [List.filter_cons_of_pos (by simpa using h), List.filterMap_cons_some hd]
        exact .cons hc (ih hts)
      · rw [List.filter_cons_of_neg (by simpa using h),
          List.filterMap_cons_none (Token.diagnose?_of_not_isSuspicious ht h)]
        exact ih hts

/-- Nothing is said exactly where nothing is suspicious. -/
theorem isEmpty_iff_of_forall₂ {f : Findings}
    (h : List.Forall₂ Concerns (ts.filter Token.IsSuspicious) f.diagnostics) :
    f.isEmpty = true ↔ ∀ t ∈ ts, ¬ t.IsSuspicious := by
  rw [Findings.isEmpty, List.isEmpty_iff_length_eq_zero, ← h.length_eq,
    List.length_eq_zero_iff, List.filter_eq_nil_iff]
  simp

/-- **The diagnostics of a source.**  They are those of its suspicious tokens, one for each and in
their order. -/
theorem attributed_tokenize (source : String) :
    Attributed (Lexer.ofString source).tokenize.1 (Lexer.ofString source).tokenize.2 := by
  have hi := fun t => @Lexer.mem_integers_of_mem_tokenize source t
  have hd := forall₂_diagnostics hi
  refine ⟨hd, fun t ht hk => ?_, Findings.errorCount_ofTokens _, Findings.hasErrors_ofTokens _,
    (isEmpty_iff_of_forall₂ hd).trans ?_⟩
  · by_cases hn : t.literal.toList ∈ numerals
    · have hs : ¬ t.IsSuspicious := by simp [Token.IsSuspicious, hk, hn]
      exact iff_of_true (Token.diagnose?_of_not_isSuspicious (hi t ht) hs) hn
    · obtain ⟨d, hd, -⟩ := Token.diagnose?_of_isSuspicious (hi t ht) (.inr ⟨hk, hn⟩)
      exact iff_of_false (by simp [hd]) hn
  · simp [Token.IsSuspicious]

end Tokenizer
