import Tokenizer.Token.Basic
import Tokenizer.Word
import Tokenizer.Diagnostic

/-!
# Suspicious tokens

An illegal token is an error, with a hint when its text looks like something that was meant. An
integer literal whose hexadecimal mark is followed by other letters than hexadecimal digits is
legal, but worth a warning. No other token is suspicious.
-/

namespace Tokenizer

/-- What the author of an illegal word may have overlooked. -/
inductive Hint
  | missingHexDigit
  | missingExponentDigit
  | leadingDigit
deriving DecidableEq

namespace Hint

/-- A hint as the suggestion shown to the author. -/
def text : Hint → String
  | missingHexDigit => "a hexadecimal literal needs at least one digit after '0x'"
  | missingExponentDigit => "an exponent needs at least one digit"
  | leadingDigit => "identifiers cannot start with a digit"

/-- The hint for an illegal word, the most specific that applies. -/
def ofWord? (w : List Char) : Option Hint :=
  if Word.isBareHexMark w then some missingHexDigit
  else if Word.hasEmptyExponent w then some missingExponentDigit
  else if Word.isLedByDigit w then some leadingDigit
  else none

end Hint

namespace Diagnostic

/-- The error for an illegal token, which shows its text escaped. -/
def illegalToken (literal : String) : Diagnostic where
  severity := .error
  message := "illegal token '" ++ Text.escape literal ++ "'"
  suggestion := (Hint.ofWord? literal.toList).map Hint.text

/-- The warning for an integer literal that no base can read. -/
def looseHex (literal : String) : Diagnostic :=
  warning ("integer literal '" ++ literal ++ "' contains non-hexadecimal digits")

end Diagnostic

namespace Token

/-- What there is to say about a token. -/
def diagnose? (t : Token) : Option Diagnostic :=
  match t.kind with
  | .illegal => some (.illegalToken t.literal)
  | .intLiteral => if Word.isLooseHex t.literal.toList then some (.looseHex t.literal) else none
  | _ => none

end Token

/-- What there is to say about a list of tokens, in their order. -/
def Findings.ofTokens (ts : List Token) : Findings :=
  ⟨ts.filterMap Token.diagnose?⟩

end Tokenizer
