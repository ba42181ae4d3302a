import Mathlib.Tactic.SplitIfs
import Tokenizer.Text.Escape
import Tokenizer.Proofs.Scan.Reads

/-!
# Reading quoted text

Readers of text between quotes in which a backslash starts an escape.  They do not know which
characters are unprintable or combining: an escape says which character it stands for, whichever
style wrote it.

* `reads_escapeChar_of`: what stands for a character, in any style, is read as this character.
* `reads_quote`, `reads_escape_quoted`: text between double or single quotes is read as the text.
* `isUnprintable_of_mem_escapeChar`: what stands for a character is printable, so that quoted text
  holds no line feed (`no_lineFeed_quote`).
-/

namespace Tokenizer.Text

open Scan

/-! ### Hexadecimal numbers -/

/-- The number that hexadecimal digits stand for. -/
def hexNumber (ds : List Char) : Nat :=
  (ds.filterMap hexValue?).foldl (16 * · + ·) 0

theorem hexValue?_digitChar : ∀ d < 16, hexValue? (Nat.digitChar d) = some d := by
  decide

theorem isSome_hexValue?_toDigits (n : Nat) :
    ∀ c ∈ Nat.toDigits 16 n, (hexValue? c).isSome = true := by
  induction n using Nat.strongRecOn with
  | _ n ih =>
      intro c hc
      rw [Nat.toDigits_eq_if (by decide)] at hc
      split at hc
      · next hn =>
          obtain rfl := List.mem_singleton.mp hc
          rw [hexValue?_digitChar n hn]
          rfl
      · rcases List.mem_append.mp hc with hc | hc
        · exact ih _ (Nat.div_lt_self (by omega) (by decide)) c hc
        · obtain rfl := List.mem_singleton.mp hc
          rw [hexValue?_digitChar _ (Nat.mod_lt n (by decide))]
          rfl

/-- The digits of a number stand for it. -/
theorem hexNumber_toDigits (n : Nat) : hexNumber (Nat.toDigits 16 n) = n := by
  induction n using Nat.strongRecOn with
  | _ n ih =>
      rw [Nat.toDigits_eq_if (by decide)]
      split
      · next hn => simp [hexNumber, hexValue?_digitChar n hn]
      · have ih' := ih (n / 16) (Nat.div_lt_self (by omega) (by decide))
        rw [hexNumber] at ih' ⊢
        rw [List.filterMap_append, List.foldl_append, ih', List.filterMap_cons,
          hexValue?_digitChar _ (Nat.mod_lt n (by decide))]
        exact Nat.div_add_mod n 16

/-! ### The reader -/

/-- A character by its code point between braces. -/
def bracedCode : Scan Char := do
  exactly '\x7b'
  let digits ← run₁ fun c => (hexValue? c).isSome
  exactly '\x7d'
  guard (hexNumber digits).isValidChar
  return .ofNat (hexNumber digits)

/-- The character that an escape stands for, behind the backslash. -/
def escapedChar : Scan Char := do
  match ← char fun _ => true with
  | '0' => return '\x00'
  | 't' => return '\t'
  | 'r' => return '\r'
  | 'n' => return '\n'
  | '\\' => return '\\'
  | '"' => return '"'
  | '\'' => return '\''
  | 'u' => bracedCode
  | _ => failure

/-- A character as it is, if it is of a class, or escaped. -/
def orEscaped (d : Char → Bool) : Scan Char :=
  char d <|> (exactly '\\' *> escapedChar)

/-- A character between double quotes, as it is or escaped. -/
def quotedChar : Scan Char :=
  char (fun c => c != '"' && c != '\\') <|> (exactly '\\' *> escapedChar)

/-- A text between two marks, character by character. -/
def enclosed (mark : Char) (p : Scan Char) : Scan String := do
  exactly mark
  let cs ← p.repeated
  exactly mark
  return .ofList cs

/-- A text between double quotes, character by character. -/
def doubleQuoted (p : Scan Char) : Scan String := do
  exactly '"'
  let cs ← p.repeated
  exactly '"'
  return .ofList cs

/-- A text between double quotes, with its characters as they are or escaped. -/
def quoted : Scan String :=
  doubleQuoted quotedChar

/-- A text between single quotes, with its characters as they are or escaped. -/
def singleQuoted : Scan String :=
  enclosed '\'' (orEscaped fun c => c != '\'' && c != '\\')

/-! ### Reading what was written -/

variable {p : Scan Char} {d : Char → Bool} {mark c : Char} {s : List Char}

/-- A text is read back if each of its characters is, and if none is read from the closing mark. -/
theorem reads_enclosed {δ : Type} {xs : List δ} {print : δ → List Char} {g : δ → Char}
    (h : ∀ x ∈ xs, Reads p (print x) (g x)) (hne : ∀ x ∈ xs, print x ≠ [])
    (hq : Refuses p [mark]) :
    Reads (enclosed mark p) (mark :: (xs.flatMap print ++ [mark])) (.ofList (xs.map g)) := by
  refine (reads_exactly mark).bind (Reads.repeated_bind h hne hq ?_)
  simpa using (reads_exactly mark).bind (f := fun _ => pure (String.ofList (xs.map g))) (Reads.pure _)

theorem reads_doubleQuoted {print : Char → List Char} (h : ∀ c, Reads p (print c) c)
    (hne : ∀ c, print c ≠ []) (hq : Refuses p ['"']) (s : String) :
    Reads (doubleQuoted p) ('"' :: (s.toList.flatMap print ++ ['"'])) s := by
  have hs : Reads (enclosed '"' p) ('"' :: (s.toList.flatMap print ++ ['"']))
      (.ofList (s.toList.map id)) := reads_enclosed (fun c _ => h c) (fun c _ => hne c) hq
  rwa [List.map_id, String.ofList_toList] at hs

theorem reads_bracedCode (c : Char) :
    Reads bracedCode ('\x7b' :: (Nat.toDigits 16 c.toNat ++ ['\x7d'])) c := by
  have hv : (hexNumber (Nat.toDigits 16 c.toNat)).isValidChar := by
    rw [hexNumber_toDigits]
    exact c.valid
  refine (reads_exactly '\x7b').bind (Reads.run₁_bind (isSome_hexValue?_toDigits _)
    Nat.toDigits_ne_nil rfl ((reads_exactly '\x7d').bind (t := []) ?_))
  refine .guard_bind hv ?_
  rw [hexNumber_toDigits, Char.ofNat_toNat]
  exact Reads.pure c

theorem reads_escape (hd : d '\\' = false) (h : Reads escapedChar s c) :
    Reads (orEscaped d) ('\\' :: s) c :=
  .orElse_right (refuses_char hd s) ((reads_exactly '\\').seqRight h)

/-- What stands for a character is read as this character, if what the reader does not take as it is
is escaped in this style. -/
theorem reads_escapeChar_of {style : EscapeStyle} (hb : d '\\' = false)
    (hd : ∀ c, d c = false → (c = '\\' ∨ c = '"') ∨ c = '\'' ∧ style.singleQuotes = true) (c : Char) :
    Reads (orEscaped d) (escapeChar style c) c := by
  have letter {x : Char} {a : Char} (h : ∀ r, escapedChar (x :: r) = some (a, r)) :
      Reads (orEscaped d) ['\\', x] a := reads_escape hb h
  unfold escapeChar
  split_ifs with h₀ ht hr hn hq hs hu
  · subst h₀; exact letter fun _ => rfl
  · subst ht; exact letter fun _ => rfl
  · subst hr; exact letter fun _ => rfl
  · subst hn; exact letter fun _ => rfl
  · rcases hq with rfl | rfl
    · exact letter fun _ => rfl
    · exact letter fun _ => rfl
  · rw [hs.1]; exact letter fun _ => rfl
  · have h : Reads escapedChar (['u'] ++ '\x7b' :: (Nat.toDigits 16 c.toNat ++ ['\x7d'])) c :=
      Reads.bind (reads_char rfl) (reads_bracedCode c)
    exact reads_escape hb h
  · have hc : d c ≠ false := fun h => (hd c h).elim hq hs
    exact .orElse_left (reads_char (by simpa using hc))

theorem reads_escapeChar (style : EscapeStyle) (c : Char) :
    Reads quotedChar (escapeChar style c) c :=
  reads_escapeChar_of (d := fun c => c != '"' && c != '\\') rfl
    (fun c h => .inl (by simpa [imp_iff_not_or, or_comm] using h)) c

theorem escapeChar_ne_nil (style : EscapeStyle) (c : Char) : escapeChar style c ≠ [] := by
  unfold escapeChar codePointEscape
  split_ifs <;> exact List.cons_ne_nil _ _

theorem toList_quote (s : String) :
    (quote s).toList = '"' :: (s.toList.flatMap (escapeChar .quoted) ++ ['"']) := by
  rw [quote, String.toList_ofList]
  rfl

theorem refuses_orEscaped (hd : d mark = false) (hm : mark ≠ '\\') : Refuses (orEscaped d) [mark] :=
  .orElse (refuses_char hd []) (refuses_exactly hm []).seqRight

/-- Quoted text is read as the text. -/
theorem reads_quote (s : String) : Reads quoted (quote s).toList s := by
  rw [toList_quote]
  exact reads_doubleQuoted (reads_escapeChar .quoted) (escapeChar_ne_nil .quoted)
    (refuses_orEscaped rfl (by decide)) s

theorem toList_escape (s : String) : (escape s).toList = escapeChars s.toList :=
  String.toList_ofList

/-- The characters of a text, each with the style it is escaped in inside a message. -/
def styled : List Char → List (EscapeStyle × Char)
  | [] => []
  | c :: cs => (.leading, c) :: cs.map (.inner, ·)

theorem escapeChars_eq (cs : List Char) :
    escapeChars cs = (styled cs).flatMap fun x => escapeChar x.1 x.2 := by
  cases cs with
  | nil => rfl
  | cons c cs => simp [escapeChars, styled, List.flatMap_map]

theorem map_snd_styled (cs : List Char) : (styled cs).map Prod.snd = cs := by
  cases cs with
  | nil => rfl
  | cons c cs => simp [styled, Function.comp_def]

/-- Inside a message, single quotes are escaped too. -/
theorem singleQuotes_of_mem_styled {cs : List Char} {x : EscapeStyle × Char} (h : x ∈ styled cs) :
    x.1.singleQuotes = true := by
  cases cs with
  | nil => cases h
  | cons c cs =>
      rcases List.mem_cons.mp h with rfl | h
      · rfl
      · obtain ⟨c, -, rfl⟩ := List.mem_map.mp h
        rfl

/-- Escaped text between single quotes is read as the text. -/
theorem reads_escape_quoted (s : String) :
    Reads singleQuoted ('\'' :: ((escape s).toList ++ ['\''])) s := by
  have h : Reads singleQuoted
      ('\'' :: ((styled s.toList).flatMap (fun x => escapeChar x.1 x.2) ++ ['\'']))
      (.ofList ((styled s.toList).map Prod.snd)) := by
    refine reads_enclosed (fun x hx => ?_) (fun x _ => escapeChar_ne_nil x.1 x.2)
      (refuses_orEscaped rfl (by decide))
    refine reads_escapeChar_of rfl (fun c hc => ?_) x.2
    rw [singleQuotes_of_mem_styled hx, and_iff_left rfl]
    exact (by simpa [imp_iff_not_or, or_comm] using hc : c = '\\' ∨ c = '\'').imp_left .inl
  rwa [map_snd_styled, String.ofList_toList, ← escapeChars_eq, ← toList_escape] at h

/-- A text without quotes and backslashes is read from between single quotes as it is. -/
theorem reads_singleQuoted (hs : ∀ c ∈ s, c ≠ '\'' ∧ c ≠ '\\') :
    Reads singleQuoted ('\'' :: (s ++ ['\''])) (.ofList s) := by
  have h : Reads singleQuoted ('\'' :: (s.flatMap (fun c => [c]) ++ ['\''])) (.ofList (s.map id)) := by
    refine reads_enclosed (fun c hc => .orElse_left (reads_char ?_)) (fun c _ => List.cons_ne_nil c [])
      (refuses_orEscaped rfl (by decide))
    simpa using hs c hc
  rwa [List.map_id, List.flatMap_singleton'] at h

/-! ### Printable characters -/

/-- The characters from the space to the tilde are printable. -/
theorem isUnprintable_of_visible (h₁ : 0x20 ≤ c.toNat) (h₂ : c.toNat ≤ 0x7e) :
    isUnprintable c = false := by
  unfold isUnprintable CodeRanges.contains unprintables
  rw [searchRanges, if_neg (by omega), searchRanges, if_pos (by omega), decide_eq_false]
  omega

theorem isUnprintable_of_mem_toDigits {n : Nat} (h : c ∈ Nat.toDigits 16 n) :
    isUnprintable c = false := by
  have hc := isSome_hexValue?_toDigits n c h
  unfold hexValue? at hc
  split_ifs at hc with h₁ h₂ h₃
  · exact isUnprintable_of_visible (Nat.le_trans (by decide) h₁.1) (Nat.le_trans h₁.2 (by decide))
  · exact isUnprintable_of_visible (Nat.le_trans (by decide) h₂.1) (Nat.le_trans h₂.2 (by decide))
  · exact isUnprintable_of_visible (Nat.le_trans (by decide) h₃.1) (Nat.le_trans h₃.2 (by decide))
  · cases hc

/-- What stands for a character, in any style, is printable. -/
theorem isUnprintable_of_mem_escapeChar {style : EscapeStyle} {x : Char}
    (h : x ∈ escapeChar style c) : isUnprintable x = false := by
  have escape {y : Char} (hy : isUnprintable y = false) (h : x ∈ ['\\', y]) :
      isUnprintable x = false := by
    rcases List.mem_pair.mp h with rfl | rfl
    · rfl
    · exact hy
  unfold escapeChar codePointEscape at h
  split_ifs at h with h₀ ht hr hn hq hs hu
  · exact escape rfl h
  · exact escape rfl h
  · exact escape rfl h
  · exact escape rfl h
  · rcases hq with rfl | rfl
    · exact escape rfl h
    · exact escape rfl h
  · rw [hs.1] at h
    exact escape rfl h
  · simp only [List.cons_append, List.mem_cons, List.mem_append, List.not_mem_nil, or_false] at h
    rcases h with rfl | rfl | rfl | h | rfl
    · rfl
    · rfl
    · rfl
    · exact isUnprintable_of_mem_toDigits h
    · rfl
  · rw [List.mem_singleton.mp h]
    exact (by simpa using hu : _ ∧ isUnprintable c = false).2

theorem no_lineFeed_escapeChar (style : EscapeStyle) (c : Char) : '\n' ∉ escapeChar style c :=
  fun h => absurd (isUnprintable_of_mem_escapeChar h) (by decide)

theorem no_lineFeed_quote (s : String) : '\n' ∉ (quote s).toList := by
  rw [toList_quote]
  simp [no_lineFeed_escapeChar]

end Tokenizer.Text
