import Tokenizer.Token.Basic
import Tokenizer.Settings.Basic

/-!
# Listings

A list of tokens as it is printed. As text it has a line for each token: the name of its kind, padded
to a column, and the quoted literal. As JSON it is an array of objects, one member on a line.
-/

namespace Tokenizer.Token

/-- The width to which the names of kinds are padded. -/
def kindColumn : Nat := 16

/-- A token on a line of its own, without the line feed. -/
def textLine (t : Token) : String :=
  .ofList (t.kind.name.toList.rightpad kindColumn ' ') ++ " " ++ Text.quote t.literal

/-- A list of tokens as text. -/
def textListing (ts : List Token) : String :=
  String.join (ts.map fun t => t.textLine ++ "\n")

/-- A token as an indented JSON object. -/
def jsonBlock (t : Token) : String :=
  "  \x7b\n" ++ ",\n".intercalate
    (t.members.map fun (key, value) =>
      "    " ++ Text.jsonString key ++ ": " ++ Text.jsonString value) ++ "\n  \x7d"

/-- A list of tokens as a JSON array. -/
def jsonListing : List Token → String
  | [] => "[]\n"
  | ts => "[\n" ++ ",\n".intercalate (ts.map jsonBlock) ++ "\n]\n"

/-- A list of tokens in a format. -/
def listing : Format → List Token → String
  | .text => textListing
  | .json => jsonListing

end Tokenizer.Token
