import Tokenizer.Toml.Blank

/-!
# Quoted strings

The four forms of a string: between double quotes, where a backslash starts an escape, or between
single quotes, where every character stands for itself; on one line, or between tripled quotes on
several lines. A line end inside a string is a line feed however it is written, a line end straight
after the opening tripled quotes is dropped, and up to two quotes may stand before the closing ones.
-/

namespace Tokenizer.Toml

/-- Whether a character may stand in a string quoted by `q` without being escaped. -/
def isPlain (q : Char) (c : Char) : Bool :=
  isText c && c != q && !(q == '"' && c == '\\')

/-- The character that an escape stands for. -/
def escaped : Scan Char := do
  Scan.exactly '\\'
  match ← Scan.char fun _ => true with
  | 'b' => return '\x08'
  | 't' => return '\t'
  | 'n' => return '\n'
  | 'f' => return '\x0c'
  | 'r' => return '\r'
  | '"' => return '"'
  | '\\' => return '\\'
  | 'u' => Scan.codePoint 4
  | 'U' => Scan.codePoint 8
  | _ => failure

/-- A piece of a string quoted by `q`: characters that stand for themselves, or an escape. -/
def quotedPiece (q : Char) : Scan (List Char) :=
  Scan.run₁ (isPlain q) <|> (do guard (q == '"'); return [← escaped])

/-- A string on one line. -/
def singleLine (q : Char) : Scan String := do
  Scan.exactly q
  let pieces ← (quotedPiece q).repeated
  Scan.exactly q
  return .ofList pieces.flatten

/-- A backslash at the end of a line, with the line end and all blanks and line ends after it. -/
def continuation : Scan Unit := do
  Scan.exactly '\\'
  blanks
  newline
  discard <| Scan.repeated (discard (Scan.run₁ isBlank) <|> newline)

/-- A run of quotes and how long it is. -/
def quotes (q : Char) : Scan Nat := do
  return (← Scan.run (· == q)).length

/-- One or two quotes inside a string between tripled ones. -/
def innerQuotes (q : Char) : Scan (List Char) := do
  let n ← quotes q
  guard (0 < n ∧ n < 3)
  return List.replicate n q

/-- A piece of a string between tripled quotes. -/
def multiLinePiece (q : Char) : Scan (List Char) :=
  (do newline; return ['\n'])
    <|> (do guard (q == '"'); continuation; return [])
    <|> quotedPiece q
    <|> innerQuotes q

/-- A string between tripled quotes. -/
def multiLine (q : Char) : Scan String := do
  Scan.literally [q, q, q]
  discard <| optional newline
  let pieces ← (multiLinePiece q).repeated
  let n ← quotes q
  guard (3 ≤ n ∧ n ≤ 5)
  return .ofList (pieces.flatten ++ List.replicate (n - 3) q)

/-- A string in any of its forms. -/
def quotedString : Scan String :=
  multiLine '"' <|> singleLine '"' <|> multiLine '\'' <|> singleLine '\''

end Tokenizer.Toml
