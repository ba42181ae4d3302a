import Tokenizer.Text.Unprintable
import Tokenizer.Text.Combining

/-!
# Escaped text

Two ways to show any text on one line. `escape` is for text inside a message, where the quotes
around it may be single or double ones and only the first character can be drawn onto a quote.
`quote` puts the text between double quotes and escapes combining characters wherever they stand.

Both write a backslash before a backslash and a double quote, name NUL, tab, line feed and carriage
return by a letter, and give every other unprintable character by its code point.
-/

namespace Tokenizer.Text

/-- Which of the optional escapes a form of escaped text uses. -/
structure EscapeStyle where
  singleQuotes : Bool
  combining : Bool

/-- The code point of `c` in lower-case hexadecimal, between braces. -/
def codePointEscape (c : Char) : List Char :=
  '\\' :: 'u' :: '{' :: Nat.toDigits 16 c.toNat ++ ['}']

/-- What stands for one character in escaped text. -/
def escapeChar (style : EscapeStyle) (c : Char) : List Char :=
  if c = '\x00' then ['\\', '0']
  else if c = '\t' then ['\\', 't']
  else if c = '\r' then ['\\', 'r']
  else if c = '\n' then ['\\', 'n']
  else if c = '\\' ∨ c = '"' then ['\\', c]
  else if c = '\'' ∧ style.singleQuotes then ['\\', c]
  else if style.combining && isCombining c || isUnprintable c then codePointEscape c
  else [c]

/-- The style of the first character inside a message. -/
def EscapeStyle.leading : EscapeStyle := ⟨true, true⟩

/-- The style of the other characters inside a message. -/
def EscapeStyle.inner : EscapeStyle := ⟨true, false⟩

/-- The style of the characters between double quotes. -/
def EscapeStyle.quoted : EscapeStyle := ⟨false, true⟩

/-- Escaped text, character by character. -/
def escapeChars : List Char → List Char
  | [] => []
  | c :: cs => escapeChar .leading c ++ cs.flatMap (escapeChar .inner)

/-- Text made safe to stand inside a one-line message. -/
def escape (s : String) : String :=
  .ofList (escapeChars s.toList)

/-- Text between double quotes, made safe to stand on one line. -/
def quote (s : String) : String :=
  .ofList ('"' :: s.toList.flatMap (escapeChar .quoted) ++ ['"'])

end Tokenizer.Text
