import Tokenizer.Scan

/-!
# Blanks, line ends and comments

What may stand between the parts of a document without being one of them.
-/

namespace Tokenizer.Toml

/-- Whether a character separates the parts of a line. -/
def isBlank (c : Char) : Bool :=
  c == ' ' || c == '\t'

/-- Whether a character may stand in a comment: a tab, or any character but the controls. -/
def isText (c : Char) : Bool :=
  c == '\t' || ' ' ≤ c && c != '\x7f'

/-- Spaces and tabs, or nothing. -/
def blanks : Scan Unit := do
  discard <| Scan.run isBlank

/-- A line feed, with or without a carriage return before it. -/
def newline : Scan Unit :=
  Scan.exactly '\n' <|> Scan.literally ['\r', '\n']

/-- A number sign and the text after it. -/
def comment : Scan Unit := do
  Scan.exactly '#'
  discard <| Scan.run isText

/-- What may stand between the parts of an array: blanks, line ends and comments. -/
def padding : Scan Unit := do
  discard <| Scan.repeated (discard (Scan.run₁ isBlank) <|> newline <|> comment)

/-- What may follow the last part of a line, up to and with its end. -/
def lineEnd : Scan Unit := do
  blanks
  discard <| optional comment
  newline <|> Scan.endOfText

end Tokenizer.Toml
