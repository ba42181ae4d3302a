import Tokenizer.Number.Binary64

/-!
# Shortest decimals

The decimal that shows a binary number is the shortest one that reads back as that number, and of the
shortest ones the nearest to it; of two equally near the larger is taken. It is found on the coarsest
grid of multiples of a power of ten on which a neighbour of the number reads back.

A decimal is written in positional notation, whatever its magnitude, and always with a point.
-/

namespace Tokenizer.Number

/-- The number `digits * 10 ^ exponent`. -/
structure Decimal where
  digits : Nat
  exponent : Int
deriving DecidableEq

/-- The numbers that read back as `m * 2 ^ e`, in units of `2 ^ (e - 2)`: all between the two ends,
and the ends themselves if `m` is even. The gap below a power of two is half as wide as the gap above
it, except at the smallest exponent. -/
structure Interval where
  lower : Nat
  upper : Nat
  closed : Bool

/-- The interval of `m * 2 ^ e`. -/
def Interval.around (m : Nat) (e : Int) : Interval where
  lower :=
    if m = Binary64.leastFullMantissa ∧ Binary64.minExponent < e then 4 * m - 1 else 4 * m - 2
  upper := 4 * m + 2
  closed := m % 2 = 0

/-- Whether `num / den` lies in the interval. -/
def Interval.contains (i : Interval) (num den : Nat) : Bool :=
  if i.closed then i.lower * den ≤ num && num ≤ i.upper * den
  else i.lower * den < num && num < i.upper * den

/-- The multiple of `10 ^ j` that is nearest to `m * 2 ^ e` among its two neighbours that read back,
as a count of `10 ^ j`. -/
def onGrid? (m : Nat) (e j : Int) : Option Nat :=
  let (tn, td) := power 10 j
  let (bn, bd) := power 2 (e - 2)
  -- `num / den` is the number of grid steps in a unit of the interval
  let num := bn * td
  let den := bd * tn
  let readsBack := fun n => (Interval.around m e).contains (n * den) num
  let below := 4 * m * num / den
  let above := below + 1
  match readsBack below, readsBack above with
  | true, true => if 2 * (4 * m * num) < (below + above) * den then some below else some above
  | true, false => some below
  | false, true => some above
  | false, false => none

/-- The exponents of the grids on which a number is looked for, coarsest first. -/
def gridExponents : List Int :=
  (List.range 634).map fun (i : Nat) => 309 - (i : Int)

/-- The shortest decimal that reads back as `m * 2 ^ e`, the nearest one if there are several. -/
def shortest (m : Nat) (e : Int) : Decimal :=
  (gridExponents.findSome? fun j => (onGrid? m e j).map (⟨·, j⟩)).getD ⟨0, 0⟩

/-- A decimal in positional notation, with a point and at least one digit on either side of it. -/
def Decimal.positional (d : Decimal) : String :=
  let digits := Nat.toDigits 10 d.digits
  .ofList <|
    match d.exponent with
    | .ofNat n => digits ++ List.replicate n '0' ++ ['.', '0']
    | .negSucc n =>
      let padded := List.replicate (n + 2 - digits.length) '0' ++ digits
      padded.take (padded.length - (n + 1)) ++ '.' :: padded.drop (padded.length - (n + 1))

/-- A binary number as text. -/
def Binary64.positional : Binary64 → String
  | .finite negative m e =>
    (if negative then "-" else "") ++ (if m = 0 then ⟨0, 0⟩ else shortest m e).positional
  | .infinite negative => if negative then "-inf" else "inf"
  | .notANumber => "NaN"

end Tokenizer.Number
