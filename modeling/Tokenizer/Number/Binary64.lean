/-!
# Binary floating-point numbers

The numbers of the 64-bit binary format, as exact values: a finite number is a natural number below
`2 ^ 53` times a power of two from `2 ^ (-1074)` on. `Binary64.ofDecimal` reads a decimal as the
nearest of them, a tie going to the even neighbour, and everything too large as an infinity.
-/

namespace Tokenizer.Number

/-- A number of the 64-bit binary format. -/
inductive Binary64
  /-- The number `mantissa * 2 ^ exponent`, with its sign; zero has two signs. -/
  | finite (negative : Bool) (mantissa : Nat) (exponent : Int)
  | infinite (negative : Bool)
  | notANumber
deriving DecidableEq

/-- `base ^ e`, as a numerator and a denominator. -/
def power (base : Nat) : Int → Nat × Nat
  | .ofNat n => (base.pow n, 1)
  | .negSucc n => (1, base.pow (n + 1))

/-- The natural number nearest to `num / den`, the even one of two. -/
def roundHalfEven (num den : Nat) : Nat :=
  let q := num / den
  let twice := 2 * (num % den)
  if twice < den ∨ twice = den ∧ q % 2 = 0 then q else q + 1

/-- The exponent of the leading bit of the positive number `num / den`. -/
def leadingBit (num den : Nat) : Int :=
  let guess : Int := (num.log2 : Int) - den.log2
  let (n, d) := power 2 guess
  if n * den ≤ d * num then guess else guess - 1

namespace Binary64

/-- The exponent of the smallest positive number. -/
def minExponent : Int := -1074

/-- The greatest exponent of a finite number whose mantissa has all of its 53 bits. -/
def maxExponent : Int := 971

/-- The least mantissa that has all of the 53 bits of one, `2 ^ 52`. -/
def leastFullMantissa : Nat := Nat.pow 2 52

/-- The number nearest to `num / den`, which is positive. -/
def nearest (negative : Bool) (num den : Nat) : Binary64 :=
  let e := max (leadingBit num den - 52) minExponent
  let (n, d) := power 2 e
  let m := roundHalfEven (num * d) (den * n)
  let (m, e) := if m = 2 * leastFullMantissa then (leastFullMantissa, e + 1) else (m, e)
  if maxExponent < e then infinite negative else finite negative m e

/-- The number nearest to `digits * 10 ^ exponent`. Decimals far outside the range of the format are
told by their magnitude, so that no power of ten is larger than it has to be. -/
def ofDecimal (negative : Bool) (digits : Nat) (exponent : Int) : Binary64 :=
  let magnitude := exponent + (Nat.toDigits 10 digits).length
  if digits = 0 ∨ magnitude < -330 then finite negative 0 minExponent
  else if 310 < magnitude then infinite negative
  else
    let (n, d) := power 10 exponent
    nearest negative (digits * n) d

end Binary64

end Tokenizer.Number
