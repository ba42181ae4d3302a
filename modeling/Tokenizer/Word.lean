import Tokenizer.Token.Kind
import Tokenizer.Text.Letter

/-!
# Words

A word is a run of characters without blanks and symbols, except that a dot may stand inside it.
What a word is follows from its characters alone. The recognisers overlap (`case` has the form of an
identifier and `42` that of a float), so `classify` asks them in a fixed order.

* identifiers: `[_a-zA-Z\p{L}][_a-zA-Z0-9\p{L}]*`, with the letters of every script;
* integers: `[0-9]+`, or `0x` or `0X` and then `[0-9A-Za-z]+`, of which a later stage may refuse the
  letters that are no digits;
* floats: `[0-9]*('.'[0-9]*)?([eE][0-9]+)?` with a digit before the exponent.
-/

namespace Tokenizer.Word

/-! ### Identifiers -/

/-- Whether an identifier may start with `c`. -/
def isIdentifierStart (c : Char) : Bool :=
  c == '_' || Text.isLetter c

/-- Whether `c` may stand in an identifier after its first character. -/
def isIdentifierPart (c : Char) : Bool :=
  isIdentifierStart c || c.isDigit

/-- Whether a word has the form of an identifier. -/
def isIdentifier : List Char → Bool
  | [] => false
  | c :: cs => isIdentifierStart c && cs.all isIdentifierPart

/-! ### Integers -/

/-- What follows the mark of a hexadecimal literal, if the word starts with one. -/
def hexDigits? : List Char → Option (List Char)
  | '0' :: 'x' :: ds => some ds
  | '0' :: 'X' :: ds => some ds
  | _ => none

/-- Whether a word has the form of an integer literal. -/
def isInteger (w : List Char) : Bool :=
  match hexDigits? w with
  | some ds => !ds.isEmpty && ds.all Char.isAlphanum
  | none => !w.isEmpty && w.all Char.isDigit

/-- Whether `c` is a hexadecimal digit. -/
def isHexDigit (c : Char) : Bool :=
  c.isDigit || 'a' ≤ c && c ≤ 'f' || 'A' ≤ c && c ≤ 'F'

/-- Whether a word is a hexadecimal mark followed by something that is not a hexadecimal number. -/
def isLooseHex (w : List Char) : Bool :=
  match hexDigits? w with
  | some ds => !ds.all isHexDigit
  | none => false

/-! ### Floats -/

/-- The fraction digits at the head of what follows the whole digits, and the rest. -/
def splitFraction : List Char → List Char × List Char
  | '.' :: cs => (cs.takeWhile Char.isDigit, cs.dropWhile Char.isDigit)
  | cs => ([], cs)

/-- Whether `c` marks an exponent. -/
def isExponentMark (c : Char) : Bool :=
  c == 'e' || c == 'E'

/-- Whether what follows the mantissa is nothing or a whole exponent. -/
def isExponent : List Char → Bool
  | [] => true
  | c :: ds => isExponentMark c && !ds.isEmpty && ds.all Char.isDigit

/-- Whether a word has the form of a float literal. -/
def isFloat (w : List Char) : Bool :=
  let whole := w.takeWhile Char.isDigit
  let (fraction, rest) := splitFraction (w.dropWhile Char.isDigit)
  !(whole.isEmpty && fraction.isEmpty) && isExponent rest

/-! ### The kind of a word -/

/-- The forms that a legal word may have. -/
inductive Form
  | keyword
  | identifier
  | integer
  | float
deriving DecidableEq

/-- The kind of a word that has a form, or nothing if it has another. -/
def Form.kind? (w : String) : Form → Option Kind
  | keyword => (Keyword.ofWord? w).map .keyword
  | identifier => if isIdentifier w.toList then some .identifier else none
  | integer => if isInteger w.toList then some .intLiteral else none
  | float => if isFloat w.toList then some .floatLiteral else none

/-- The kind of a word by the first of some forms that it has. -/
def classifyBy (forms : List Form) (w : String) : Kind :=
  (forms.findSome? (Form.kind? w)).getD .illegal

/-- The kind of a word. -/
def classify (w : String) : Kind :=
  classifyBy [.keyword, .identifier, .integer, .float] w

/-! ### What may have been meant -/

/-- Whether a word is a hexadecimal mark and nothing else. -/
def isBareHexMark (w : List Char) : Bool :=
  hexDigits? w == some []

/-- Whether a word is a float literal followed by an exponent mark. -/
def hasEmptyExponent (w : List Char) : Bool :=
  w.getLast?.any isExponentMark && isFloat w.dropLast

/-- Whether a word starts with a digit and holds a character that an identifier could start with. -/
def isLedByDigit (w : List Char) : Bool :=
  w.head?.any Char.isDigit && w.any isIdentifierStart

end Tokenizer.Word
