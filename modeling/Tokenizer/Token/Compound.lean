/-!
# Compound operators

Operators of two or three characters. They belong to the vocabulary, but a source is read one symbol
at a time, so they arise only where a later stage joins neighbouring symbols.
-/

namespace Tokenizer

/-- The operators of more than one character. -/
inductive Compound
  | lessLess | greaterGreater | plusEqual | starEqual | slashEqual | percentEqual | ampEqual
  | pipeEqual | caretEqual | lessLessEqual | greaterGreaterEqual | ampAmp | pipePipe | plusPlus
  | minusMinus | equalEqual | bangEqual | lessEqual | greaterEqual
deriving DecidableEq

namespace Compound

/-- Every compound operator. -/
def all : List Compound :=
  [lessLess, greaterGreater, plusEqual, starEqual, slashEqual, percentEqual, ampEqual,
    pipeEqual, caretEqual, lessLessEqual, greaterGreaterEqual, ampAmp, pipePipe, plusPlus,
    minusMinus, equalEqual, bangEqual, lessEqual, greaterEqual]

/-- The name a compound operator is listed under. -/
def name : Compound → String
  | lessLess => "LessLess"
  | greaterGreater => "GreaterGreater"
  | plusEqual => "PlusEqual"
  | starEqual => "StarEqual"
  | slashEqual => "SlashEqual"
  | percentEqual => "PercentEqual"
  | ampEqual => "AmpEqual"
  | pipeEqual => "PipeEqual"
  | caretEqual => "CaretEqual"
  | lessLessEqual => "LessLessEqual"
  | greaterGreaterEqual => "GreaterGreaterEqual"
  | ampAmp => "AmpAmp"
  | pipePipe => "PipePipe"
  | plusPlus => "PlusPlus"
  | minusMinus => "MinusMinus"
  | equalEqual => "EqualEqual"
  | bangEqual => "BangEqual"
  | lessEqual => "LessEqual"
  | greaterEqual => "GreaterEqual"

end Compound

end Tokenizer
