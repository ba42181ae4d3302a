import Tokenizer.Proofs.Text.Quoted
import Tokenizer.Proofs.Token.Attribution

/-!
# Messages cannot be forged

A message shows a piece of the source.  Whatever the source holds, the message is plain text
(`Text.IsPlain`), so that it stays on its line and does nothing to a terminal; and which token it is
about can be read from the message alone (`Diagnostic.subject?`).

* `isPlain_escape`: escaped text is plain.
* `lines_display`: a diagnostic is shown on the lines it has, and on no others.
* `subject?_of_diagnose?`: the message names its token.
* `unforgeable_tokenize`: so it is with every diagnostic of every source.
-/

namespace Tokenizer

open Scan Word

/-! ### Plain text -/

namespace Text

/-- U+0000 to U+001F and U+007F to U+009F. -/
def IsControl (c : Char) : Prop :=
  c.toNat ≤ 0x1f ∨ 0x7f ≤ c.toNat ∧ c.toNat ≤ 0x9f

/-- A line feed, vertical tab, form feed, carriage return or next line, or the separator of lines or
of paragraphs. -/
def isLineBreak (c : Char) : Bool :=
  ['\n', '\x0b', '\x0c', '\r', '\u0085', '\u2028', '\u2029'].contains c

/-- A text without control characters and without line breaks. -/
def IsPlain (s : String) : Prop :=
  ∀ c ∈ s.toList, ¬ IsControl c ∧ isLineBreak c = false

/-- The lines of a text, whatever breaks them. -/
def lines (s : String) : List String :=
  (s.toList.splitOnP isLineBreak).map String.ofList

theorem isUnprintable_of_isControl {c : Char} (h : IsControl c) : isUnprintable c = true := by
  rw [isUnprintable, CodeRanges.contains_iff]
  rcases h with h | h
  · exact ⟨(0x0, 0x1f), List.mem_cons_self, Nat.zero_le _, h⟩
  · exact ⟨(0x7f, 0xa0), List.mem_cons_of_mem _ List.mem_cons_self, h.1, Nat.le_succ_of_le h.2⟩

theorem isUnprintable_of_isLineBreak {c : Char} (h : isLineBreak c = true) :
    isUnprintable c = true := by
  have hall : ['\n', '\x0b', '\x0c', '\r', '\u0085', '\u2028', '\u2029'].all isUnprintable := by
    decide +kernel
  exact List.all_eq_true.mp hall c (by simpa [isLineBreak] using h)

/-- Printable characters are plain. -/
theorem isPlain_of_printable {s : String} (h : ∀ c ∈ s.toList, isUnprintable c = false) :
    IsPlain s := by
  refine fun c hc => ⟨fun hl => ?_, Bool.eq_false_iff.mpr fun hl => ?_⟩
  · exact absurd (isUnprintable_of_isControl hl) (by simp [h c hc])
  · exact absurd (isUnprintable_of_isLineBreak hl) (by simp [h c hc])

/-- For a text that is given, this can be computed. -/
theorem isPlain_of_any {s : String} (h : s.toList.any isUnprintable = false) : IsPlain s :=
  isPlain_of_printable fun c hc => eq_false_of_ne_true (List.any_eq_false.mp h c hc)

theorem IsPlain.append {s t : String} (hs : IsPlain s) (ht : IsPlain t) : IsPlain (s ++ t) := by
  intro c hc
  rw [String.toList_append] at hc
  exact (List.mem_append.mp hc).elim (hs c) (ht c)

/-- Escaped text is plain. -/
theorem isPlain_escape (s : String) : IsPlain (escape s) := by
  refine isPlain_of_printable fun c hc => ?_
  rw [toList_escape, escapeChars_eq] at hc
  obtain ⟨x, -, hc⟩ := List.mem_flatMap.mp hc
  exact isUnprintable_of_mem_escapeChar hc

/-- Plain texts with line feeds between them are the lines of the whole. -/
theorem lines_intercalate {s : String} {ss : List String} (h : ∀ t ∈ s :: ss, IsPlain t) :
    lines ("\n".intercalate (s :: ss)) = s :: ss := by
  have hsplit : ∀ (s : String) (ss : List String), (∀ t ∈ s :: ss, IsPlain t) →
      (s.toList ++ ss.flatMap ('\n' :: ·.toList)).splitOnP isLineBreak =
        (s :: ss).map String.toList := by
    intro s ss
    induction ss generalizing s with
    | nil =>
        intro h
        simpa using List.splitOnP_eq_singleton fun c hc => (h s List.mem_cons_self c hc).2
    | cons t ss ih =>
        intro h
        obtain ⟨hs, h⟩ := List.forall_mem_cons.mp h
        rw [List.flatMap_cons, List.cons_append,
          List.splitOnP_append_cons_of_forall_mem (fun c hc => (hs c hc).2) '\n' rfl, ih t h]
        rfl
  have hi : ("\n".intercalate (s :: ss)).toList = s.toList ++ ss.flatMap ('\n' :: ·.toList) := by
    simp [intercalate_cons, List.flatMap_map]
  rw [lines, hi, hsplit s ss h]
  simp

end Text

open Text

/-- The letters and digits of ASCII are printable, and none of them is a quote or a backslash. -/
theorem printable_of_isLatin_or_isDecimal {c : Char} (h : IsLatin c ∨ IsDecimal c) :
    isUnprintable c = false ∧ c ≠ '\'' ∧ c ≠ '\\' := by
  have hn : (97 ≤ c.toNat ∧ c.toNat ≤ 122 ∨ 65 ≤ c.toNat ∧ c.toNat ≤ 90) ∨
      48 ≤ c.toNat ∧ c.toNat ≤ 57 := h
  refine ⟨isUnprintable_of_visible (by omega) (by omega), ?_, ?_⟩
  · rintro rfl
    exact absurd hn (by decide)
  · rintro rfl
    exact absurd hn (by decide)

/-! ### The lines of a diagnostic -/

theorem isPlain_label (v : Severity) : IsPlain v.label := by
  cases v <;> exact isPlain_of_any (by decide +kernel)

theorem isPlain_text (h : Hint) : IsPlain h.text := by
  cases h <;> exact isPlain_of_any (by decide +kernel)

/-- A diagnostic is shown on the lines it has, and on no others. -/
theorem Diagnostic.lines_display {d : Diagnostic} (hm : IsPlain d.message)
    (hs : ∀ s ∈ d.suggestion, IsPlain s) : Text.lines d.display = d.lines := by
  refine lines_intercalate (List.forall_mem_cons.mpr ⟨?_, fun l hl => ?_⟩)
  · exact ((isPlain_label _).append (isPlain_of_any (by decide +kernel))).append hm
  · obtain ⟨s, hs', rfl⟩ : ∃ s, d.suggestion = some s ∧ "   = help: " ++ s = l := by simpa using hl
    exact (isPlain_of_any (by decide +kernel)).append (hs s hs')

/-! ### The subject of a message -/

theorem reads_literally (cs : List Char) : Reads (literally cs) cs () := by
  induction cs with
  | nil => exact Reads.pure ()
  | cons c cs ih => exact (reads_exactly c).bind ih

/-- A text that goes another way than a fixed one is refused. -/
theorem refuses_literally {c x : Char} (h : c ≠ x) (cs xs s : List Char) :
    Refuses (literally (cs ++ x :: xs)) (cs ++ c :: s) := by
  induction cs with
  | nil => exact (refuses_exactly h s).bind
  | cons d cs ih => exact (reads_exactly d).bind_refuses ih

/-- A token by the message about it. -/
def subject : Scan Token :=
  (do
    literally "illegal token ".toList
    return ⟨.illegal, ← singleQuoted⟩) <|>
  (do
    literally "integer literal ".toList
    let literal ← singleQuoted
    literally " contains non-hexadecimal digits".toList
    return ⟨.intLiteral, literal⟩)

/-- The token that a message is about, if it is a message. -/
def Diagnostic.subject? (message : String) : Option Token :=
  (subject <* endOfText).run' message.toList

theorem Diagnostic.subject?_of_reads {message : String} {t : Token}
    (h : Reads subject message.toList t) : subject? message = some t := by
  have hr := h []
  rw [List.append_nil] at hr
  exact run'_seqLeft (r := []) (b := ()) hr rfl

/-- The message for an illegal token names it, whatever its text. -/
theorem Diagnostic.subject?_illegalToken (w : String) :
    subject? (illegalToken w).message = some ⟨.illegal, w⟩ := by
  refine subject?_of_reads ?_
  have hm : (illegalToken w).message.toList =
      "illegal token ".toList ++ ('\'' :: ((escape w).toList ++ ['\''])) := by
    simp [illegalToken]
  rw [hm]
  exact .orElse_left ((reads_literally _).bind (reads_escape_quoted w).bind_pure)

/-- The message for an integer literal names it, though it shows the text as it is: a digit needs no
escape. -/
theorem Diagnostic.subject?_looseHex {w : String} (hw : w.toList ∈ integers) :
    subject? (looseHex w).message = some ⟨.intLiteral, w⟩ := by
  refine subject?_of_reads ?_
  have hm : (looseHex w).message.toList = "integer literal ".toList ++
      (('\'' :: (w.toList ++ ['\''])) ++ " contains non-hexadecimal digits".toList) := by
    simp [looseHex, warning]
  have hq : Reads singleQuoted ('\'' :: (w.toList ++ ['\''])) w := by
    have h := reads_singleQuoted (s := w.toList) fun c hc =>
      (printable_of_isLatin_or_isDecimal (isLatin_or_isDecimal_of_mem_integers hw c hc)).2
    rwa [String.ofList_toList] at h
  rw [hm]
  refine .orElse_right (Refuses.bind ?_)
    ((reads_literally _).bind (hq.bind (reads_literally _).bind_pure))
  -- the two messages differ in their second letter
  exact refuses_literally (c := 'n') (x := 'l') (by decide) ['i'] _ _

/-! ### What is said of tokens -/

/-- What is said of a token: that it is illegal, or that it is an integer literal with a foreign
digit. -/
theorem Token.diagnose?_cases {t : Token} {d : Diagnostic}
    (hi : t.kind = .intLiteral → t.literal.toList ∈ integers) (h : t.diagnose? = some d) :
    t.kind = .illegal ∧ d = .illegalToken t.literal ∨
      t.kind = .intLiteral ∧ t.literal.toList ∈ integers ∧ d = .looseHex t.literal := by
  unfold diagnose? at h
  split at h
  · next hk => exact .inl ⟨hk, (Option.some.inj h).symm⟩
  · next hk =>
      split at h
      · exact .inr ⟨hk, hi hk, (Option.some.inj h).symm⟩
      · cases h
  · cases h

theorem Diagnostic.isPlain_illegalToken (w : String) : IsPlain (illegalToken w).message :=
  ((isPlain_of_any (by decide +kernel)).append (isPlain_escape w)).append
    (isPlain_of_any (by decide +kernel))

/-- The text of an integer literal is plain, so that it may stand in a message as it is. -/
theorem Diagnostic.isPlain_looseHex {w : String} (hw : w.toList ∈ integers) :
    IsPlain (looseHex w).message := by
  have hp : IsPlain w := isPlain_of_printable fun c hc =>
    (printable_of_isLatin_or_isDecimal (isLatin_or_isDecimal_of_mem_integers hw c hc)).1
  exact ((isPlain_of_any (by decide +kernel)).append hp).append
    (isPlain_of_any (by decide +kernel))

/-- The text of a suggestion never comes from the source. -/
theorem Diagnostic.isPlain_suggestion_illegalToken {w s : String}
    (h : s ∈ (illegalToken w).suggestion) : IsPlain s := by
  obtain ⟨hint, -, rfl⟩ := Option.map_eq_some_iff.mp h
  exact isPlain_text hint

/-- What is said of a token is plain text on lines of its own, and names the token. -/
structure Names (d : Diagnostic) (t : Token) : Prop where
  message : IsPlain d.message
  lines : Text.lines d.display = d.lines
  subject : Diagnostic.subject? d.message = some t

theorem Token.names_of_diagnose? {t : Token} {d : Diagnostic}
    (hi : t.kind = .intLiteral → t.literal.toList ∈ integers) (h : t.diagnose? = some d) :
    Names d t := by
  obtain ⟨k, w⟩ := t
  rcases diagnose?_cases hi h with ⟨rfl, rfl⟩ | ⟨rfl, hw, rfl⟩
  · have hm := Diagnostic.isPlain_illegalToken w
    exact ⟨hm, Diagnostic.lines_display hm fun s hs =>
      Diagnostic.isPlain_suggestion_illegalToken hs, Diagnostic.subject?_illegalToken w⟩
  · have hm := Diagnostic.isPlain_looseHex hw
    exact ⟨hm, Diagnostic.lines_display hm nofun, Diagnostic.subject?_looseHex hw⟩

/-- The source cannot forge the findings `f` on the tokens `ts`. -/
structure Unforgeable (ts : List Token) (f : Findings) : Prop where
  /-- No message holds a control character or a line break. -/
  plain : ∀ d ∈ f.diagnostics, IsPlain d.message
  /-- A diagnostic is shown on one line, or on two if there is a suggestion. -/
  lines : ∀ d ∈ f.diagnostics, Text.lines d.display = d.lines ∧
    d.lines.length = if d.suggestion.isSome then 2 else 1
  /-- The messages alone tell which tokens they are about. -/
  subjects : f.diagnostics.map (fun d => Diagnostic.subject? d.message) =
    (ts.filter Token.IsSuspicious).map some
  /-- Illegal tokens with different texts have different messages, whatever source they are from. -/
  distinct : ∀ t ∈ ts, ∀ source, ∀ u ∈ (Lexer.ofString source).tokenize.1,
    t.kind = .illegal → u.kind = .illegal → t.literal ≠ u.literal →
    t.diagnose?.map (·.message) ≠ u.diagnose?.map (·.message)

theorem subjects_diagnostics {ts : List Token}
    (hi : ∀ t ∈ ts, t.kind = .intLiteral → t.literal.toList ∈ integers) :
    (Findings.ofTokens ts).diagnostics.map (fun d => Diagnostic.subject? d.message) =
      (ts.filter Token.IsSuspicious).map some := by
  rw [Findings.ofTokens, List.map_filterMap, ← List.filterMap_eq_map', List.filterMap_filter]
  refine List.filterMap_congr fun t ht => ?_
  by_cases hs : t.IsSuspicious
  · obtain ⟨d, hd, -⟩ := Token.diagnose?_of_isSuspicious (hi t ht) hs
    rw [hd, Option.map_some, (Token.names_of_diagnose? (hi t ht) hd).subject]
    simp [hs]
  · rw [Token.diagnose?_of_not_isSuspicious (hi t ht) hs]
    simp [hs]

/-- The texts of illegal tokens can be told from their messages. -/
theorem Token.literal_eq_of_message_eq {t u : Token} (ht : t.kind = .illegal)
    (hu : u.kind = .illegal)
    (h : t.diagnose?.map (·.message) = u.diagnose?.map (·.message)) : t.literal = u.literal := by
  obtain ⟨k, w⟩ := t
  obtain ⟨k', w'⟩ := u
  cases ht
  cases hu
  have hm : (Diagnostic.illegalToken w).message = (Diagnostic.illegalToken w').message :=
    Option.some.inj h
  have hs := congrArg Diagnostic.subject? hm
  rw [Diagnostic.subject?_illegalToken, Diagnostic.subject?_illegalToken] at hs
  exact congrArg Token.literal (Option.some.inj hs)

/-- **No source can forge a diagnostic.**  What is said of a source is plain text on lines of its own,
and tells by itself which token it is about. -/
theorem unforgeable_tokenize (source : String) :
    Unforgeable (Lexer.ofString source).tokenize.1 (Lexer.ofString source).tokenize.2 := by
  have hi := fun t => @Lexer.mem_integers_of_mem_tokenize source t
  have hn : ∀ d ∈ (Lexer.ofString source).tokenize.2.diagnostics, ∃ t, Names d t := fun d hd => by
    obtain ⟨t, ht, hd⟩ := List.mem_filterMap.mp hd
    exact ⟨t, Token.names_of_diagnose? (hi t ht) hd⟩
  refine ⟨fun d hd => ?_, fun d hd => ?_, subjects_diagnostics hi, fun t _ _ u _ ht hu hne h => ?_⟩
  · obtain ⟨t, h⟩ := hn d hd
    exact h.message
  · obtain ⟨t, h⟩ := hn d hd
    refine ⟨h.lines, ?_⟩
    cases hs : d.suggestion <;> simp [Diagnostic.lines, hs]
  · exact hne (Token.literal_eq_of_message_eq ht hu h)

/-- A line feed in the source does not reach the message, and neither does a quote. -/
example : (Diagnostic.illegalToken "?'\n\u2028").display =
    "error: illegal token '?\\'\\n\\u\x7b2028\x7d'" := by
  decide +kernel

end Tokenizer
