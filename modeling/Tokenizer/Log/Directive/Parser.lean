import Tokenizer.Log.Directive.Basic
import Tokenizer.Log.Pattern

/-!
# Directives as text

A directive is written as a level, as a target with a level after an equals sign, or as a target
alone, which lets all its events through. Brackets after the target, or in place of it, hold the
name of a span, a field between braces, or both; a level may follow them after an equals sign.

Where the parts of a directive end is found in its text without the white space at the ends. The
parts themselves are counted off, byte by byte, from the text as it was given.
-/

namespace Tokenizer.Log

/-- Why a text is no filter. -/
inductive FilterError
  | badDirective
  | badLevel
  | badPattern
  /-- A part of a directive would end inside a character. -/
  | brokenCharacter
deriving DecidableEq

/-- A filter error as it is shown. -/
def FilterError.message : FilterError → String
  | badDirective => "invalid filter directive"
  | badLevel => "error parsing level filter: expected one of \"off\", \"error\", \"warn\", " ++
      "\"info\", \"debug\", \"trace\", or a number 0-5"
  | badPattern => "invalid field filter: error building NFA"
  | brokenCharacter => "a part of a filter directive ends inside a character"

/-! ### Levels and fields -/

/-- The rank of the level that a text names, in any case or by its number. -/
def verbosity? (cs : List Char) : Option Nat :=
  let digits := if cs.head? = some '+' then cs.drop 1 else cs
  if !digits.isEmpty && digits.all Char.isDigit then
    let n := digits.foldl (fun n c => 10 * n + (c.toNat - '0'.toNat)) 0
    if n ≤ 5 then some n else none
  else if cs.map Char.toLower = "off".toList then some 0
  else (Level.all.find? fun l => l.name.toList == cs.map Char.toLower).map Level.rank

/-- The verbosity after an equals sign; none given means everything. -/
def verbosityAfter (cs : List Char) : Except FilterError Nat :=
  if cs = [] then .ok Level.trace.rank
  else
    match verbosity? cs with
    | some n => .ok n
    | none => .error .badLevel

/-- A number as a value of a field: digits with an optional sign, fraction and exponent, or a word
for no finite number. -/
def fieldNumber : Scan Unit := do
  let sign := Scan.char fun c => c == '+' || c == '-'
  let digits := Scan.run Char.isDigit
  discard <| optional sign
  if ["inf", "infinity", "nan"].contains (String.ofList ((← get).map Char.toLower)) then return
  let whole ← digits
  let fraction ← (do Scan.exactly '.'; digits) <|> return []
  guard (whole ++ fraction != [])
  discard <| optional (do
    discard <| Scan.char fun c => c == 'e' || c == 'E'
    discard <| optional sign
    Scan.run₁ Char.isDigit)
  Scan.endOfText

/-- Whether a text may be the value of a field. Of the words for the truth values, which may be too,
each is a pattern. -/
def isFieldValue (cs : List Char) : Bool :=
  (StateT.run fieldNumber cs).isSome || isPattern cs

/-- The condition that the text between braces denotes: a name, and perhaps a value after an equals
sign. What follows a second equals sign does not count. -/
def FieldCondition.parse (cs : List Char) : Except FilterError FieldCondition :=
  match cs.splitOn '=' with
  | name :: value :: _ =>
    if isFieldValue value then .ok ⟨.ofList name, some (.ofList value)⟩ else .error .badPattern
  | _ => if cs = [] then .error .badDirective else .ok ⟨.ofList cs, none⟩

/-! ### Parts of texts -/

/-- A text without the white space at its ends. -/
def trim (cs : List Char) : List Char :=
  ((cs.dropWhile Text.isWhiteSpace).reverse.dropWhile Text.isWhiteSpace).reverse

/-- How many bytes a text takes. -/
def byteCount (cs : List Char) : Nat :=
  cs.foldl (fun n c => n + c.utf8Size) 0

/-- A text cut in two after some bytes, unless that is inside a character. -/
def splitAtByte (cs : List Char) (n : Nat) : Except FilterError (List Char × List Char) :=
  match n, cs with
  | 0, cs => .ok ([], cs)
  | _, [] => .error .brokenCharacter
  | n, c :: cs => do
    if n < c.utf8Size then throw .brokenCharacter
    let (before, after) ← splitAtByte cs (n - c.utf8Size)
    return (c :: before, after)

/-- The part of a text from one byte to another. -/
def slice (cs : List Char) (start stop : Nat) : Except FilterError (List Char) := do
  let (_, rest) ← splitAtByte cs start
  return (← splitAtByte rest (stop - start)).1

/-! ### Parts of directives -/

/-- How far a directive has been read. -/
structure Progress where
  /-- How many bytes have been read. -/
  offset : Nat
  /-- What is still to be read of the text without the white space at its ends. -/
  ahead : List Char

/-- A reader of a part of a directive. -/
abbrev Reader := StateT Progress (Except FilterError)

/-- The part of `given` before the first of some marks, all of them single bytes, and that mark,
both of which are read. Nothing is read if no mark is ahead. -/
def partBefore (given : List Char) (marks : List Char) : Reader (Option (List Char × Char)) := do
  let ⟨start, ahead⟩ ← get
  let length := (ahead.takeWhile (!marks.contains ·)).length
  match ahead.drop length with
  | [] => return none
  | mark :: rest =>
    let stop := start + byteCount (ahead.take length)
    let part ← slice given start stop
    set (Progress.mk (stop + 1) rest)
    return some (part, mark)

/-- One character, which is a single byte. -/
def mark (c : Char) : Reader Unit := do
  let ⟨offset, ahead⟩ ← get
  if ahead.head? != some c then throw .badDirective
  set (Progress.mk (offset + 1) (ahead.drop 1))

/-- The verbosity in the rest of `given`. -/
def finalVerbosity (given : List Char) : Reader Nat := do
  let (_, rest) ← splitAtByte given (← get).offset
  verbosityAfter rest

/-- The verbosity behind brackets, after an equals sign if anything follows. -/
def optionalVerbosity (given : List Char) : Reader Nat := do
  if (← get).ahead = [] then return Level.trace.rank
  mark '='
  finalVerbosity given

/-- What stands between brackets, of which the first has been read: the name of a span, a field
between braces, or both. -/
def narrowing (given : List Char) : Reader (Option String × Option FieldCondition) := do
  match ← partBefore given [']', '\x7b'] with
  | none => throw .badDirective
  | some (span, ']') => return (some (.ofList span), none)
  | some (span, _) =>
    let some (text, _) ← partBefore given ['\x7d'] | throw .badDirective
    let field ← FieldCondition.parse text
    mark ']'
    return (if span = [] then none else some (.ofList span), some field)

/-! ### Whole directives -/

namespace Directive

/-- Whether a directive may start with `c`. -/
def startsWith (c : Char) : Bool :=
  c == '[' || c == '-' || c == ':' || c == '_' || Text.isAlphanumeric c

/-- Reads the directive that a text between commas denotes. -/
def read (given : List Char) : Reader Directive := do
  if !(← get).ahead.head?.any startsWith then throw .badDirective
  match ← partBefore given ['=', '['] with
  | none =>
    match verbosity? given with
    | some n => return { verbosity := n }
    | none => return { target := some (.ofList given), verbosity := Level.trace.rank }
  | some (target, '=') =>
    return { target := some (.ofList target), verbosity := ← finalVerbosity given }
  | some (target, _) =>
    let target := if target = [] then none else some (.ofList target)
    let (span, field) ← narrowing given
    return { target, span, field, verbosity := ← optionalVerbosity given }

/-- The directive that a text between commas denotes. -/
def parse (cs : List Char) : Except FilterError Directive :=
  (read cs).run' ⟨0, trim cs⟩

end Directive

end Tokenizer.Log
