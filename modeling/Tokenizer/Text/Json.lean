/-!
# JSON strings

The JSON form of a text: quotes and backslashes take a backslash, the five controls that have a
letter are named by it, the other characters below the space are given by four hexadecimal digits,
and everything else stands for itself.
-/

namespace Tokenizer.Text

/-- What stands for one character inside a JSON string. -/
def jsonChar (c : Char) : List Char :=
  if c = '"' ∨ c = '\\' then ['\\', c]
  else if c = '\x08' then ['\\', 'b']
  else if c = '\x0c' then ['\\', 'f']
  else if c = '\n' then ['\\', 'n']
  else if c = '\r' then ['\\', 'r']
  else if c = '\t' then ['\\', 't']
  else if c < ' ' then
    ['\\', 'u', '0', '0', Nat.digitChar (c.toNat / 16), Nat.digitChar (c.toNat % 16)]
  else [c]

/-- A text as a JSON string, with its quotes. -/
def jsonString (s : String) : String :=
  .ofList ('"' :: s.toList.flatMap jsonChar ++ ['"'])

end Tokenizer.Text
