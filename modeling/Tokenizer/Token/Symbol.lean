/-!
# Symbols

The single characters that are tokens by themselves. Each is an ASCII character, so one byte of a
source decides whether a symbol stands there.
-/

namespace Tokenizer

/-- The operators and delimiters of one character. -/
inductive Symbol
  | plus | minus | star | slash | percent | amp | pipe | caret | less | greater | equal | bang
  | leftParen | rightParen | leftBracket | rightBracket | leftBrace | rightBrace | semicolon
  | comma | dot
deriving DecidableEq

namespace Symbol

/-- Every symbol. -/
def all : List Symbol :=
  [plus, minus, star, slash, percent, amp, pipe, caret, less, greater, equal, bang, leftParen,
    rightParen, leftBracket, rightBracket, leftBrace, rightBrace, semicolon, comma, dot]

/-- The character a symbol is written as. -/
def char : Symbol → Char
  | plus => '+'
  | minus => '-'
  | star => '*'
  | slash => '/'
  | percent => '%'
  | amp => '&'
  | pipe => '|'
  | caret => '^'
  | less => '<'
  | greater => '>'
  | equal => '='
  | bang => '!'
  | leftParen => '('
  | rightParen => ')'
  | leftBracket => '['
  | rightBracket => ']'
  | leftBrace => '{'
  | rightBrace => '}'
  | semicolon => ';'
  | comma => ','
  | dot => '.'

/-- The name a symbol is listed under. -/
def name : Symbol → String
  | plus => "Plus"
  | minus => "Minus"
  | star => "Star"
  | slash => "Slash"
  | percent => "Percent"
  | amp => "Amp"
  | pipe => "Pipe"
  | caret => "Caret"
  | less => "Less"
  | greater => "Greater"
  | equal => "Equal"
  | bang => "Bang"
  | leftParen => "LeftParen"
  | rightParen => "RightParen"
  | leftBracket => "LeftBracket"
  | rightBracket => "RightBracket"
  | leftBrace => "LeftBrace"
  | rightBrace => "RightBrace"
  | semicolon => "Semicolon"
  | comma => "Comma"
  | dot => "Dot"

/-- The byte a symbol is written as. -/
def byte (s : Symbol) : UInt8 :=
  s.char.toUInt8

/-- The symbol written as the byte `b`. -/
def ofByte? (b : UInt8) : Option Symbol :=
  all.find? (·.byte == b)

theorem ofByte?_byte (s : Symbol) : ofByte? s.byte = some s := by
  cases s <;> decide

theorem ofByte?_eq_some_iff {b : UInt8} {s : Symbol} : ofByte? b = some s ↔ s.byte = b :=
  ⟨fun h => by simpa using List.find?_some h, fun h => h ▸ ofByte?_byte s⟩

/-- No symbol starts or continues a character beyond ASCII. -/
theorem byte_lt (s : Symbol) : s.byte < 128 := by
  cases s <;> decide

end Symbol

end Tokenizer
