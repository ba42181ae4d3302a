import Tokenizer.Text.CodeRanges

/-!
# White space

The characters with the property White_Space: the ASCII blanks and line ends, and the blanks and
separators of other scripts.
-/

namespace Tokenizer.Text

/-- The white space characters. -/
def whiteSpaces : CodeRanges where
  ranges := [
  (0x9, 0xd), (0x20, 0x20), (0x85, 0x85), (0xa0, 0xa0), (0x1680, 0x1680), (0x2000, 0x200a),
  (0x2028, 0x2029), (0x202f, 0x202f), (0x205f, 0x205f), (0x3000, 0x3000)]
  isAscending := by decide +kernel

/-- Whether `c` is white space. -/
def isWhiteSpace (c : Char) : Bool :=
  whiteSpaces.contains c

end Tokenizer.Text
