import Tokenizer.Toml.Quoted
import Tokenizer.Toml.Moment
import Tokenizer.Number.Binary64

/-!
# Numbers

Integers of 64 bits, in base ten with an optional sign, or in base sixteen, eight or two after a
mark; and binary floating-point numbers, with a fraction, an exponent or both. Single underscores may
stand between the digits.
-/

namespace Tokenizer.Toml

/-- A run of digits with single underscores between them, which are dropped. -/
def digitRun (isDigit : Char → Bool) : Scan (List Char) := do
  let first ← Scan.char isDigit
  let rest ← Scan.repeated
    (Scan.char isDigit <|> (do Scan.exactly '_'; Scan.char isDigit))
  return first :: rest

/-- A whole number in base ten, which starts with a zero only if it is zero. -/
def wholeNumber : Scan (List Char) :=
  (do Scan.exactly '0'; return ['0']) <|> digitRun Char.isDigit

/-- Whether a number is negative, by the sign that may stand before it. -/
def sign : Scan Bool :=
  (do Scan.exactly '-'; return true) <|> (do Scan.exactly '+'; return false) <|> return false

/-- The integers of 64 bits. -/
def isInt64 (n : Int) : Bool :=
  Int64.minValue.toInt ≤ n && n ≤ Int64.maxValue.toInt

/-- An integer in another base than ten, after the mark of its base. -/
def based (mark : Char) (base : Nat) : Scan Int := do
  Scan.literally ['0', mark]
  let digits ← digitRun fun c => (Text.hexValue? c).any (· < base)
  return ((digits.filterMap Text.hexValue?).foldl (base * · + ·) 0 : Nat)

/-- An integer in base ten. -/
def decimalInteger : Scan Int := do
  let negative ← sign
  let value : Int := decimalValue (← wholeNumber)
  return if negative then -value else value

/-- An integer in any base. -/
def integer : Scan Int := do
  let n ← based 'x' 16 <|> based 'o' 8 <|> based 'b' 2 <|> decimalInteger
  guard (isInt64 n)
  return n

/-- The digits of a fraction, after its point. -/
def fractionDigits : Scan (List Char) := do
  Scan.exactly '.'
  digitRun Char.isDigit

/-- A power of ten, after the mark of an exponent. -/
def exponent : Scan Int := do
  discard <| Scan.char fun c => c == 'e' || c == 'E'
  let negative ← sign
  let value : Int := decimalValue (← digitRun Char.isDigit)
  return if negative then -value else value

/-- A number with a fraction, an exponent or both. One too large for the format is refused, unless it
is negative. -/
def decimalFloat : Scan Number.Binary64 := do
  let negative ← sign
  let whole ← wholeNumber
  let (part, power) ←
    (do return ([], ← exponent))
      <|> (do return (← fractionDigits, (← optional exponent).getD 0))
  let x := Number.Binary64.ofDecimal negative (decimalValue (whole ++ part)) (power - part.length)
  guard (x ≠ .infinite false)
  return x

/-- The numbers that have no digits. -/
def namedFloat : Scan Number.Binary64 := do
  let negative ← sign
  (do Scan.literally ['i', 'n', 'f']; return .infinite negative)
    <|> (do Scan.literally ['n', 'a', 'n']; return .notANumber)

/-- A binary floating-point number. -/
def float : Scan Number.Binary64 :=
  decimalFloat <|> namedFloat

end Tokenizer.Toml
