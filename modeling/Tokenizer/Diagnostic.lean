/-!
# Diagnostics

What there is to say about a source. A diagnostic has no position: those of a whole source come in
the order of the tokens they are about.
-/

namespace Tokenizer

/-- How bad a finding is. -/
inductive Severity
  | error
  | warning
deriving DecidableEq

/-- The word a severity is shown as. -/
def Severity.label : Severity → String
  | .error => "error"
  | .warning => "warning"

/-- A finding, perhaps with a suggestion how to mend it. -/
structure Diagnostic where
  severity : Severity
  message : String
  suggestion : Option String
deriving DecidableEq

namespace Diagnostic

/-- An error without a suggestion. -/
def error (message : String) : Diagnostic :=
  ⟨.error, message, none⟩

/-- A warning without a suggestion. -/
def warning (message : String) : Diagnostic :=
  ⟨.warning, message, none⟩

/-- The same finding with a suggestion, in place of any it had. -/
def withSuggestion (d : Diagnostic) (text : String) : Diagnostic :=
  { d with suggestion := some text }

/-- Whether the finding is an error. -/
def isError (d : Diagnostic) : Bool :=
  d.severity == .error

/-- The lines that show a finding. -/
def lines (d : Diagnostic) : List String :=
  (d.severity.label ++ ": " ++ d.message) :: (d.suggestion.map ("   = help: " ++ ·)).toList

/-- A finding as text: its lines, without a line feed at the end. -/
def display (d : Diagnostic) : String :=
  "\n".intercalate d.lines

end Diagnostic

/-- Diagnostics in the order in which they were found. -/
structure Findings where
  diagnostics : List Diagnostic
deriving DecidableEq

namespace Findings

/-- No findings. -/
def empty : Findings :=
  ⟨[]⟩

/-- One finding more, after the others. -/
def add (f : Findings) (d : Diagnostic) : Findings :=
  ⟨f.diagnostics ++ [d]⟩

/-- How many diagnostics there are. -/
def count (f : Findings) : Nat :=
  f.diagnostics.length

/-- How many of them are errors. -/
def errorCount (f : Findings) : Nat :=
  f.diagnostics.countP Diagnostic.isError

/-- How many of them are warnings. -/
def warningCount (f : Findings) : Nat :=
  f.count - f.errorCount

/-- Whether one of them is an error. -/
def hasErrors (f : Findings) : Bool :=
  f.diagnostics.any Diagnostic.isError

/-- Whether there are none. -/
def isEmpty (f : Findings) : Bool :=
  f.diagnostics.isEmpty

theorem errorCount_le_count (f : Findings) : f.errorCount ≤ f.count :=
  List.countP_le_length

end Findings

end Tokenizer
