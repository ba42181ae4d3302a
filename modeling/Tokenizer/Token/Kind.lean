import Tokenizer.Token.Keyword
import Tokenizer.Token.Symbol
import Tokenizer.Token.Compound

/-!
# Kinds of tokens

The vocabulary of the language. String literals and compound operators are part of it although no
source yields them: a source is read one symbol at a time, and a quote is an ordinary character of a
word.

* `Kind.ofName?_name`: a kind is known by its name.
-/

namespace Tokenizer

/-- What a token is. -/
inductive Kind
  | identifier
  | keyword (k : Keyword)
  | symbol (s : Symbol)
  | compound (c : Compound)
  | intLiteral
  | floatLiteral
  | stringLiteral
  | eof
  | illegal
deriving DecidableEq

namespace Kind

/-- Every kind. -/
def all : List Kind :=
  [identifier, intLiteral, floatLiteral, stringLiteral, eof, illegal] ++
    Keyword.all.map keyword ++ Symbol.all.map symbol ++ Compound.all.map compound

/-- The name a kind is listed under. -/
def name : Kind → String
  | identifier => "Identifier"
  | keyword k => k.name
  | symbol s => s.name
  | compound c => c.name
  | intLiteral => "IntLiteral"
  | floatLiteral => "FloatLiteral"
  | stringLiteral => "StringLiteral"
  | eof => "Eof"
  | illegal => "Illegal"

/-- The kind of a given name. -/
def ofName? (n : String) : Option Kind :=
  all.find? (·.name == n)

theorem mem_all (k : Kind) : k ∈ all := by
  rcases k with _ | k | s | c | _ | _ | _ | _ | _
  case keyword => cases k <;> decide
  case symbol => cases s <;> decide
  case compound => cases c <;> decide
  all_goals decide

/-- A kind is known by its name. -/
theorem ofName?_name (k : Kind) : ofName? k.name = some k :=
  (by decide +kernel : ∀ k ∈ all, ofName? k.name = some k) k (mem_all k)

end Kind

end Tokenizer
