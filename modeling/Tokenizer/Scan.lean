import Tokenizer.Text.Hexadecimal

/-!
# Scanning text

A scan reads a form from the head of a text and leaves the rest, or finds that the head has another
form. What failed does not matter here: a text with any fault is refused as a whole.
-/

namespace Tokenizer

/-- A reader of one form: from the text ahead to a result and the text behind it, or to nothing. -/
abbrev Scan (α : Type) := StateT (List Char) Option α

namespace Scan

/-- One character of a class. -/
def char (p : Char → Bool) : Scan Char
  | c :: cs => if p c then some (c, cs) else none
  | [] => none

/-- The character `c`. -/
def exactly (c : Char) : Scan Unit := do
  discard <| char (· == c)

/-- A fixed text. -/
def literally (cs : List Char) : Scan Unit :=
  cs.forM exactly

/-- The longest run of characters of a class, which may be empty. -/
def run (p : Char → Bool) : Scan (List Char) :=
  fun cs => some (cs.takeWhile p, cs.dropWhile p)

/-- The longest run of characters of a class, at least one of them. -/
def run₁ (p : Char → Bool) : Scan (List Char) := do
  let cs ← run p
  guard !cs.isEmpty
  return cs

/-- The end of the text. -/
def endOfText : Scan Unit := do
  guard (← get).isEmpty

/-- A form as often as it is there, but no more often than a text has characters. -/
def within (p : Scan α) : List Char → Scan (List α)
  | [] => pure []
  | _ :: bound => (do return (← p) :: (← p.within bound)) <|> pure []

/-- A form as often as it is there. Every form takes at least one character, so the text ahead bounds
how often that is. -/
def repeated (p : Scan α) : Scan (List α) := do
  p.within (← get)

/-- A form at least once, with another between any two. -/
def separated (p : Scan α) (separator : Scan Unit) : Scan (List α) := do
  return (← p) :: (← (separator *> p).repeated)

/-- A character given by the `n` hexadecimal digits of its code point. -/
def codePoint (n : Nat) : Scan Char := do
  let digits ← (List.replicate n ()).mapM fun _ => char fun c => (Text.hexValue? c).isSome
  let code := (digits.filterMap Text.hexValue?).foldl (16 * · + ·) 0
  guard code.isValidChar
  return .ofNat code

end Scan

end Tokenizer
