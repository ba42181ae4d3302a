import Tokenizer.Token.Basic
import Tokenizer.Path

/-!
# Log events

What a run may log. An event has a level, a target that says which part of the program it comes from,
a message and fields.
-/

namespace Tokenizer.Log

/-- How much an event matters, the weightiest first. -/
inductive Level
  | error
  | warn
  | info
  | debug
  | trace
deriving DecidableEq

namespace Level

/-- The name of a level. -/
def name : Level → String
  | error => "error"
  | warn => "warn"
  | info => "info"
  | debug => "debug"
  | trace => "trace"

/-- How many levels there are up to this one. -/
def rank : Level → Nat
  | error => 1
  | warn => 2
  | info => 3
  | debug => 4
  | trace => 5

/-- Every level. -/
def all : List Level :=
  [error, warn, info, debug, trace]

end Level

/-- Something worth a line in the log. -/
structure Event where
  level : Level
  target : String
  message : String
  fields : List (String × String)
deriving DecidableEq

namespace Event

/-- The target of the events of a run as a whole. -/
def runTarget : String := "golex"

/-- The target of the events of reading tokens. -/
def lexingTarget : String := "golex_lexer::lexer::scanner"

/-- Settings were read from a file in the directory `root`. -/
def settingsLoaded (root : Path) : Event :=
  ⟨.debug, runTarget, "loaded Golex.toml", [("root", root.text)]⟩

/-- A source was read. -/
def sourceRead (source : String) : Event :=
  ⟨.info, runTarget, "read source", [("bytes", toString source.utf8ByteSize)]⟩

/-- A token was found. -/
def tokenFound (t : Token) : Event :=
  ⟨.trace, lexingTarget, "token", [("kind", t.kind.name), ("literal", Text.escape t.literal)]⟩

/-- A source was read to its end. -/
def tokenized (tokens errors : Nat) : Event :=
  ⟨.debug, lexingTarget, "tokenized source",
    [("tokens", toString tokens), ("errors", toString errors)]⟩

/-- Whether an event has a field of a name. The message of an event counts as one of its fields. -/
def hasField (e : Event) (name : String) : Bool :=
  name == "message" || e.fields.any (·.1 == name)

/-- An event as a line of the log. -/
def line (e : Event) : String :=
  .ofList ((e.level.name.map Char.toUpper).toList.leftpad 5 ' ') ++ " " ++ e.message ++
    String.join (e.fields.map fun (key, value) => " " ++ key ++ "=" ++ value)

end Event

end Tokenizer.Log
