import Mathlib.Data.List.Basic
import Tokenizer.Text.Json
import Tokenizer.Proofs.Text.Quoted

/-!
# Reading JSON

A reader of JSON texts: any value, with blanks wherever they may stand.  Numbers are checked, but kept
as they are written; objects keep their members in order.

* `reads_jsonChar`, `reads_jsonString`: what stands for a character inside a JSON string is read as
  this character, and a JSON string as its text.
* `reads_bracketed`: items printed between brackets, with commas between them, are read as the items.
-/

namespace Tokenizer

open Scan

/-- A JSON value. -/
inductive Json
  | null
  | boolean (b : Bool)
  /-- A number as it is written. -/
  | number (text : String)
  | string (s : String)
  | array (items : List Json)
  | object (members : List (String × Json))

namespace Json

/-! ### The reader -/

/-- Whether a character may stand between the parts of a value. -/
def isBlank (c : Char) : Bool :=
  c == ' ' || c == '\t' || c == '\n' || c == '\r'

/-- A form with blanks in front. -/
def spaced {α : Type} (p : Scan α) : Scan α := do
  let _ ← run isBlank
  p

/-- The number of a code unit, given by four hexadecimal digits. -/
def codeUnit : Scan Nat := do
  let a ← char fun c => (Text.hexValue? c).isSome
  let b ← char fun c => (Text.hexValue? c).isSome
  let c ← char fun c => (Text.hexValue? c).isSome
  let d ← char fun c => (Text.hexValue? c).isSome
  return Text.hexNumber [a, b, c, d]

/-- A character by its code unit, or by a high surrogate and then the escape of a low one. -/
def escapedUnit : Scan Char := do
  let high ← codeUnit
  if 0xd800 ≤ high ∧ high < 0xdc00 then do
    literally ['\\', 'u']
    let low ← codeUnit
    guard (0xdc00 ≤ low ∧ low < 0xe000)
    return .ofNat (0x10000 + (high - 0xd800) * 0x400 + (low - 0xdc00))
  else do
    guard high.isValidChar
    return .ofNat high

/-- The character that an escape stands for, behind the backslash. -/
def escapedChar : Scan Char := do
  match ← char fun _ => true with
  | '"' => return '"'
  | '\\' => return '\\'
  | '/' => return '/'
  | 'b' => return '\x08'
  | 'f' => return '\x0c'
  | 'n' => return '\n'
  | 'r' => return '\r'
  | 't' => return '\t'
  | 'u' => escapedUnit
  | _ => failure

/-- A character of a string, as it is or escaped. No control stands in a string as it is. -/
def stringChar : Scan Char :=
  char (fun c => c != '"' && c != '\\' && ' ' ≤ c) <|> (exactly '\\' *> escapedChar)

/-- The text of a string. -/
def text : Scan String :=
  Text.doubleQuoted stringChar

/-- One character of a class, or nothing. -/
def perhaps (p : Char → Bool) : Scan (List Char) :=
  (do return [← char p]) <|> pure []

/-- A number: a sign, whole digits without a leading zero, a fraction and an exponent, of which only
the digits have to be there. -/
def numeral : Scan String := do
  let sign ← perhaps (· == '-')
  let whole ← (do return [← char (· == '0')]) <|>
    (do return (← char fun c => '1' ≤ c && c ≤ '9') :: (← run Char.isDigit))
  let fraction ← (do return (← char (· == '.')) :: (← run₁ Char.isDigit)) <|> pure []
  let exponent ←
    (do
      let mark ← char fun c => c == 'e' || c == 'E'
      let sign ← perhaps fun c => c == '+' || c == '-'
      return mark :: sign ++ (← run₁ Char.isDigit)) <|> pure []
  return .ofList (sign ++ whole ++ fraction ++ exponent)

/-- Items between two brackets, with a comma between any two. -/
def bracketed {α : Type} (first last : Char) (item : Scan α) : Scan (List α) := do
  exactly first
  let items ← item.separated (spaced (exactly ',')) <|> pure []
  spaced (exactly last)
  return items

/-- A member of an object. -/
def member (value : Scan Json) : Scan (String × Json) := do
  let key ← spaced text
  spaced (exactly ':')
  return (key, ← value)

/-- A value with blanks in front, in which values stand in one another at most `n` deep. -/
def value : Nat → Scan Json
  | 0 => failure
  | n + 1 => spaced <|
      string <$> text <|> array <$> bracketed '[' ']' (value n) <|>
      object <$> bracketed '\x7b' '\x7d' (member (value n)) <|>
      number <$> numeral <|> (literally ['n', 'u', 'l', 'l'] *> pure null) <|>
      (literally ['t', 'r', 'u', 'e'] *> pure (boolean true)) <|>
      (literally ['f', 'a', 'l', 's', 'e'] *> pure (boolean false))

/-- The value that a whole text stands for. Every value in another takes a character of its own, so
the text bounds how deep they stand. -/
def parse? (s : String) : Option Json :=
  (value (s.toList.length + 1) <* spaced endOfText).run' s.toList

/-! ### Strings -/

theorem reads_escape {s : List Char} {c : Char} (h : Reads escapedChar s c) :
    Reads stringChar ('\\' :: s) c :=
  .orElse_right (refuses_char rfl s) ((reads_exactly '\\').seqRight h)

theorem reads_codeUnit {a b c d : Char} (ha : (Text.hexValue? a).isSome = true)
    (hb : (Text.hexValue? b).isSome = true) (hc : (Text.hexValue? c).isSome = true)
    (hd : (Text.hexValue? d).isSome = true) :
    Reads codeUnit [a, b, c, d] (Text.hexNumber [a, b, c, d]) :=
  (reads_char ha).bind <| (reads_char hb).bind <| (reads_char hc).bind <|
    (reads_char hd).bind (Reads.pure _)

/-- A code unit below the surrogates is that of a character. -/
theorem reads_escapedUnit {s : List Char} {c : Char} (h : Reads codeUnit s c.toNat)
    (hc : c.toNat < 0xd800) : Reads escapedUnit s c := by
  rw [← List.append_nil s]
  refine h.bind ?_
  rw [if_neg fun hs => Nat.not_le.mpr hc hs.1]
  refine .guard_bind (show c.toNat.isValidChar from c.valid) ?_
  rw [Char.ofNat_toNat]
  exact Reads.pure c

/-- The escape of a control by its number. -/
theorem reads_escapedUnit_control {c : Char} (hc : c < ' ') :
    Reads escapedUnit ['0', '0', Nat.digitChar (c.toNat / 16), Nat.digitChar (c.toNat % 16)] c := by
  have hc' : c.toNat < 32 := hc
  have h₁ := Text.hexValue?_digitChar (c.toNat / 16) (by omega)
  have h₂ := Text.hexValue?_digitChar (c.toNat % 16) (by omega)
  have hu := reads_codeUnit (a := '0') (b := '0') rfl rfl (Option.isSome_of_eq_some h₁)
    (Option.isSome_of_eq_some h₂)
  have hn : Text.hexNumber ['0', '0', Nat.digitChar (c.toNat / 16), Nat.digitChar (c.toNat % 16)] =
      c.toNat := by
    have h₀ : Text.hexValue? '0' = some 0 := rfl
    simp only [Text.hexNumber, List.filterMap_cons, List.filterMap_nil, h₀, h₁, h₂, List.foldl_cons,
      List.foldl_nil]
    omega
  rw [hn] at hu
  exact reads_escapedUnit hu (by omega)

/-- What stands for a character inside a JSON string is read as this character. -/
theorem reads_jsonChar (c : Char) : Reads stringChar (Text.jsonChar c) c := by
  have letter {x a : Char} (h : ∀ r, escapedChar (x :: r) = some (a, r)) :
      Reads stringChar ['\\', x] a := reads_escape h
  unfold Text.jsonChar
  split_ifs with hq hb hf hn hr ht hc
  · rcases hq with rfl | rfl
    · exact letter fun _ => rfl
    · exact letter fun _ => rfl
  · subst hb; exact letter fun _ => rfl
  · subst hf; exact letter fun _ => rfl
  · subst hn; exact letter fun _ => rfl
  · subst hr; exact letter fun _ => rfl
  · subst ht; exact letter fun _ => rfl
  · exact reads_escape (Reads.bind (s := ['u']) (reads_char rfl) (reads_escapedUnit_control hc))
  · obtain ⟨h₁, h₂⟩ := not_or.mp hq
    exact .orElse_left (reads_char (by simp [h₁, h₂, Char.not_lt.mp hc]))

theorem jsonChar_ne_nil (c : Char) : Text.jsonChar c ≠ [] := by
  unfold Text.jsonChar
  split_ifs <;> exact List.cons_ne_nil _ _

theorem toList_jsonString (s : String) :
    (Text.jsonString s).toList = '"' :: (s.toList.flatMap Text.jsonChar ++ ['"']) := by
  rw [Text.jsonString, String.toList_ofList]
  rfl

theorem refuses_stringChar : Refuses stringChar ['"'] :=
  .orElse (refuses_char rfl []) (refuses_exactly (by decide) []).seqRight

/-- A JSON string is read as its text. -/
theorem reads_jsonString (s : String) : Reads text (Text.jsonString s).toList s := by
  rw [toList_jsonString]
  exact Text.reads_doubleQuoted reads_jsonChar jsonChar_ne_nil refuses_stringChar s

/-! ### Blanks and brackets -/

section Brackets

variable {α : Type} {p : Scan α} {a : α} {g s : List Char} {c x : Char}

theorem reads_spaced (hg : ∀ y ∈ g, isBlank y = true) (hc : isBlank c = false)
    (hp : Reads p (c :: s) a) : Reads (spaced p) (g ++ c :: s) a :=
  Reads.run_bind hg hc hp

theorem refuses_spaced (hg : ∀ y ∈ g, isBlank y = true) (hc : isBlank c = false)
    (hp : Refuses p (c :: s)) : Refuses (spaced p) (g ++ c :: s) :=
  Refuses.run_bind hg hc hp

variable {δ : Type} {print : δ → List Char} {val : δ → α} {y : δ} {ys : List δ}

/-- Items printed between brackets, with a comma before each but the first, are read as the items. -/
theorem reads_bracketed {first last : Char} (h : ∀ z ∈ y :: ys, Reads p (print z) (val z))
    (hg : ∀ z ∈ g, isBlank z = true) (hlast : isBlank last = false) (hcomma : last ≠ ',') :
    Reads (bracketed first last p)
      (first :: (print y ++ (ys.flatMap (fun z => ',' :: print z) ++ (g ++ [last]))))
      ((y :: ys).map val) := by
  have comma : Reads (spaced (exactly ',')) [','] () := reads_spaced (g := []) (by simp) rfl
    (reads_exactly ',')
  refine (reads_exactly first).bind (Reads.separated_bind (h y List.mem_cons_self)
    (fun z hz => comma.seqRight (h z (List.mem_cons_of_mem y hz))) (fun _ _ => List.cons_ne_nil _ _)
    (refuses_spaced hg hlast (refuses_exactly hcomma [])).seqRight ?_)
  simpa using (reads_spaced hg hlast (reads_exactly last)).bind
    (f := fun _ => pure ((y :: ys).map val)) (Reads.pure _)

end Brackets

/-! ### Values -/

section Values

variable {n : Nat} {g s : List Char}

theorem reads_value_string (hg : ∀ y ∈ g, isBlank y = true) (t : String) :
    Reads (value (n + 1)) (g ++ (Text.jsonString t).toList) (.string t) := by
  have h := reads_jsonString t
  rw [toList_jsonString] at h ⊢
  exact reads_spaced hg rfl (h.map string).orElse_left

theorem reads_value_array {items : List Json} (hg : ∀ y ∈ g, isBlank y = true)
    (h : Reads (bracketed '[' ']' (value n)) ('[' :: s) items) :
    Reads (value (n + 1)) (g ++ '[' :: s) (.array items) := by
  have hs : Refuses text ('[' :: s) := (refuses_exactly (by decide) s).bind
  exact reads_spaced hg rfl (.orElse_right (hs.map string) (h.map array).orElse_left)

theorem reads_value_object {members : List (String × Json)} (hg : ∀ y ∈ g, isBlank y = true)
    (h : Reads (bracketed '\x7b' '\x7d' (member (value n))) ('\x7b' :: s) members) :
    Reads (value (n + 1)) (g ++ '\x7b' :: s) (.object members) := by
  have hs : Refuses text ('\x7b' :: s) := (refuses_exactly (by decide) s).bind
  have ha : Refuses (bracketed '[' ']' (value n)) ('\x7b' :: s) :=
    (refuses_exactly (by decide) s).bind
  exact reads_spaced hg rfl
    (.orElse_right (hs.map string) (.orElse_right (ha.map array) (h.map object).orElse_left))

/-- A member: a name and a value, each with blanks in front, and a colon between them. -/
theorem reads_member {k : String} {v : Json} (hg : ∀ y ∈ g, isBlank y = true)
    (h : Reads (value n) s v) :
    Reads (member (value n)) (g ++ ((Text.jsonString k).toList ++ ':' :: s)) (k, v) := by
  have hk : Reads (spaced text) (g ++ (Text.jsonString k).toList) k := by
    have h := reads_jsonString k
    rw [toList_jsonString] at h ⊢
    exact reads_spaced hg rfl h
  rw [← List.append_assoc]
  exact hk.bind ((reads_spaced (g := []) (by simp) rfl (reads_exactly ':')).bind h.bind_pure)

end Values

/-- A whole text that is a value with blanks behind it. -/
theorem parse?_of_reads {s : String} {t g : List Char} {v : Json} (hs : s.toList = t ++ g)
    (h : Reads (value (s.toList.length + 1)) t v) (hg : ∀ y ∈ g, isBlank y = true) :
    parse? s = some v := by
  have hv := h g
  rw [← hs] at hv
  refine run'_seqLeft (r := []) (b := ()) hv ?_
  have hr := run_append (t := []) hg (by simp)
  rw [List.append_nil] at hr
  rw [spaced, bind_apply, hr]
  rfl

/-- Two surrogates are one character. -/
example : parse? "[-1.5e3, \"\\ud83d\\ude00\", true ] " =
    some (array [number "-1.5e3", string "😀", boolean true]) := by
  cbv

/-- A comma stands between two items only. -/
example : parse? "[1,]" = none := by
  cbv

end Json

end Tokenizer
