import Tokenizer.Settings.Basic

/-!
# Options of the command line

What the arguments of a run may ask for, and what can be wrong with them.
-/

namespace Tokenizer.Command

/-- The options that take no value. -/
inductive Switch
  | check
  | noEof
  | quiet
  | verbose
deriving DecidableEq

namespace Switch

/-- Every switch. -/
def all : List Switch :=
  [check, noEof, quiet, verbose]

/-- The long name of a switch. -/
def name : Switch → String
  | check => "check"
  | noEof => "no-eof"
  | quiet => "quiet"
  | verbose => "verbose"

/-- The letter of a switch, if it has one. -/
def letter? : Switch → Option Char
  | quiet => some 'q'
  | verbose => some 'v'
  | check | noEof => none

end Switch

/-- The arguments that have a value. -/
inductive Parameter
  | format
  | config
  | input
deriving DecidableEq

/-- A parameter as it is shown in messages. -/
def Parameter.shown : Parameter → String
  | format => "--format <FORMAT>"
  | config => "--config <CONFIG>"
  | input => "[INPUT]"

/-- What the arguments of a run ask for. -/
structure Options where
  /-- The source file, if one is named. -/
  input : Option Path := none
  /-- The output format, in place of the one in the settings. -/
  format : Option Format := none
  /-- The settings file, in place of the one that is searched for. -/
  config : Option Path := none
  /-- The switches that are given. -/
  switches : List Switch := []
deriving DecidableEq

/-- Whether a switch is given. -/
def Options.has (o : Options) (s : Switch) : Bool :=
  o.switches.contains s

/-- What a list of arguments asks the program to do. -/
inductive Request
  | run (o : Options)
  | help
  | fullHelp
  | version
deriving DecidableEq

/-- What is wrong with a list of arguments. -/
inductive UsageError
  | unexpectedArgument (shown : String)
  | missingValue (p : Parameter)
  | repeated (shown : String)
  | unknownFormat (name : String)
  | unexpectedValue (value shown : String)
deriving DecidableEq

/-- A usage error as it is shown. -/
def UsageError.message : UsageError → String
  | unexpectedArgument shown => "unexpected argument '" ++ shown ++ "' found"
  | missingValue p => "a value is required for '" ++ p.shown ++ "' but none was supplied"
  | repeated shown => "the argument '" ++ shown ++ "' cannot be used multiple times"
  | unknownFormat name => "invalid value '" ++ name ++ "' for '" ++ Parameter.format.shown ++ "': " ++
      Format.unknownMessage name
  | unexpectedValue value shown =>
      "unexpected value '" ++ value ++ "' for '" ++ shown ++ "' found; no more were expected"

end Tokenizer.Command
