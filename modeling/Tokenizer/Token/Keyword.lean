/-!
# Keywords

The reserved words of the language, each with the word it is written as and the name it is listed
under.
-/

namespace Tokenizer

/-- The reserved words. -/
inductive Keyword
  | «break» | default | func | interface | case | defer | clean | map | struct | «else» | goto
  | package | switch | const | fallthrough | «if» | range | type | «continue» | «for» | «import»
  | «return» | var
deriving DecidableEq

namespace Keyword

/-- Every keyword. -/
def all : List Keyword :=
  [.break, default, func, interface, case, defer, clean, map, struct, .else, goto, package, switch,
    const, fallthrough, .if, range, type, .continue, .for, .import, .return, var]

/-- The word a keyword is written as. -/
def word : Keyword → String
  | .break => "break"
  | default => "default"
  | func => "func"
  | interface => "interface"
  | case => "case"
  | defer => "defer"
  | clean => "clean"
  | map => "map"
  | struct => "struct"
  | .else => "else"
  | goto => "goto"
  | package => "package"
  | switch => "switch"
  | const => "const"
  | fallthrough => "fallthrough"
  | .if => "if"
  | range => "range"
  | type => "type"
  | .continue => "continue"
  | .for => "for"
  | .import => "import"
  | .return => "return"
  | var => "var"

/-- The name a keyword is listed under: its word with a capital. -/
def name (k : Keyword) : String :=
  k.word.capitalize

/-- The keyword that is written `w`, in exactly that case. -/
def ofWord? (w : String) : Option Keyword :=
  all.find? (·.word == w)

theorem ofWord?_word (k : Keyword) : ofWord? k.word = some k := by
  cases k <;> decide

theorem ofWord?_eq_some_iff {w : String} {k : Keyword} : ofWord? w = some k ↔ k.word = w :=
  ⟨fun h => by simpa using List.find?_some h, fun h => h ▸ ofWord?_word k⟩

end Keyword

end Tokenizer
