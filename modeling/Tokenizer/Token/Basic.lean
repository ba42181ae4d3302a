import Tokenizer.Token.Kind
import Tokenizer.Text.Escape
import Tokenizer.Text.Json

/-!
# Tokens

A token is a kind and the text it was read from. The end of the input is a token of its own, whose
text is a single NUL; a NUL in the source is not taken for it, because the kind decides.
-/

namespace Tokenizer

/-- A piece of a source, with what it is. -/
structure Token where
  kind : Kind
  literal : String
deriving DecidableEq

namespace Token

/-- The token that ends every token stream. -/
def eof : Token :=
  ⟨.eof, "\x00"⟩

/-- Whether the token ends the stream. -/
def isEof (t : Token) : Bool :=
  t.kind == .eof

/-- A token on one line: `Kind("text")`. -/
def display (t : Token) : String :=
  t.kind.name ++ "(" ++ Text.quote t.literal ++ ")"

/-- The fields of a token as JSON members, in order. -/
def members (t : Token) : List (String × String) :=
  [("kind", t.kind.name), ("literal", t.literal)]

/-- A token as a JSON object without spaces. -/
def json (t : Token) : String :=
  "\x7b" ++ ",".intercalate
    (t.members.map fun (key, value) => Text.jsonString key ++ ":" ++ Text.jsonString value) ++ "\x7d"

end Token

end Tokenizer
