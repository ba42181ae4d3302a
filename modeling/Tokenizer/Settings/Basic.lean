import Tokenizer.Path

/-!
# Settings

How a run prints tokens, when it fails and what it logs. A settings file may set any of these; what
it leaves out keeps its default.
-/

namespace Tokenizer

/-- How the token stream is printed. -/
inductive Format
  /-- One token on each line. -/
  | text
  /-- An array of objects. -/
  | json
deriving DecidableEq

namespace Format

/-- The name of a format. -/
def name : Format → String
  | text => "text"
  | json => "json"

/-- The format of a given name. -/
def ofName? (n : String) : Option Format :=
  [text, json].find? (·.name == n)

/-- What is said of a name that no format has. -/
def unknownMessage (n : String) : String :=
  "unknown output format '" ++ n ++ "' (expected 'text' or 'json')"

end Format

/-- How the token stream is printed. -/
structure OutputSettings where
  format : Format := .text
  /-- Whether the end of the input is printed as a token. -/
  showEof : Bool := true
deriving DecidableEq

/-- When a run fails. -/
structure CheckSettings where
  /-- Whether an illegal token makes the run fail. -/
  denyIllegal : Bool := true
deriving DecidableEq

/-- The log filter of a run that is told no other. -/
def defaultLevel : String := "warn"

/-- What a run logs. -/
structure LogSettings where
  /-- A log filter. -/
  level : String := defaultLevel
deriving DecidableEq

/-- The settings of a run. -/
structure Settings where
  output : OutputSettings := {}
  check : CheckSettings := {}
  log : LogSettings := {}
  /-- The directory of the file that the settings were read from. -/
  rootDirectory : Option Path := none
deriving DecidableEq

end Tokenizer
