import Tokenizer.Scan

/-!
# Dates and times

A date, a time of day, or both, with or without an offset from universal time. A day has to exist in
its month and year; a second may be the sixtieth, for leap seconds.
-/

namespace Tokenizer.Toml

/-- A day of the calendar. -/
structure Date where
  year : Nat
  month : Nat
  day : Nat
deriving DecidableEq

/-- A time of day. -/
structure Time where
  hour : Nat
  minute : Nat
  second : Nat
  nanosecond : Nat
deriving DecidableEq

/-- A point in time, as far as it is given. -/
inductive Moment
  | date (d : Date)
  | time (t : Time)
  /-- A date with a time, and the offset from universal time in minutes if there is one. -/
  | dateTime (d : Date) (t : Time) (offset : Option Int)
deriving DecidableEq

/-- How many days a month has. -/
def daysInMonth (year month : Nat) : Nat :=
  if month = 2 then
    if year % 4 = 0 ∧ (year % 100 ≠ 0 ∨ year % 400 = 0) then 29 else 28
  else if month ∈ [4, 6, 9, 11] then 30
  else 31

/-- The number that a run of decimal digits denotes. -/
def decimalValue (digits : List Char) : Nat :=
  digits.foldl (fun n c => 10 * n + (c.toNat - '0'.toNat)) 0

/-- A number of exactly `n` digits that lies between `low` and `high`. -/
def fixedNumber (n low high : Nat) : Scan Nat := do
  let digits ← (List.replicate n ()).mapM fun _ => Scan.char Char.isDigit
  let value := decimalValue digits
  guard (low ≤ value ∧ value ≤ high)
  return value

/-- A date: year, month and day. -/
def date : Scan Date := do
  let year ← fixedNumber 4 0 9999
  Scan.exactly '-'
  let month ← fixedNumber 2 1 12
  Scan.exactly '-'
  let day ← fixedNumber 2 1 (daysInMonth year month)
  return ⟨year, month, day⟩

/-- A fraction of a second in nanoseconds; further digits are dropped. -/
def fraction : Scan Nat := do
  Scan.exactly '.'
  let digits ← Scan.run₁ Char.isDigit
  return decimalValue (digits ++ List.replicate 9 '0' |>.take 9)

/-- A time of day. -/
def time : Scan Time := do
  let hour ← fixedNumber 2 0 23
  Scan.exactly ':'
  let minute ← fixedNumber 2 0 59
  Scan.exactly ':'
  let second ← fixedNumber 2 0 60
  let nanosecond ← optional fraction
  return ⟨hour, minute, second, nanosecond.getD 0⟩

/-- An offset from universal time, in minutes. -/
def offset : Scan Int :=
  (do discard <| Scan.char fun c => c == 'Z' || c == 'z'; return 0)
    <|> do
      let sign ← Scan.char fun c => c == '+' || c == '-'
      let hour ← fixedNumber 2 0 23
      Scan.exactly ':'
      let minute ← fixedNumber 2 0 59
      let minutes : Int := 60 * hour + minute
      return if sign == '-' then -minutes else minutes

/-- A time after a date, with a letter or a space between them. -/
def timeAfterDate : Scan (Time × Option Int) := do
  discard <| Scan.char fun c => c == 'T' || c == 't' || c == ' '
  return (← time, ← optional offset)

/-- A date, a time of day, or both. -/
def moment : Scan Moment :=
  (do
    let d ← date
    match ← optional timeAfterDate with
    | some (t, shift) => return .dateTime d t shift
    | none => return .date d)
  <|> (do return .time (← time))

end Tokenizer.Toml
