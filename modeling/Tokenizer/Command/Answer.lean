import Tokenizer.Command.Arguments
import Tokenizer.Command.Help
import Tokenizer.Command.Run

/-!
# Answers to the command line

What the program writes and how it ends. Its output goes to one stream; what it has to say besides,
its log, diagnostics and errors, goes to another, a notice at a time.
-/

namespace Tokenizer.Command

/-- Something that the program has to say besides its output. -/
inductive Notice
  | event (e : Log.Event)
  | diagnostic (d : Diagnostic)
  | failure (f : Failure)
  | usage (e : UsageError)
  /-- The program broke off over its log filter. -/
  | crash
deriving DecidableEq

/-- A notice as text, without the line feed at its end. -/
def Notice.display : Notice → String
  | event e => e.line
  | diagnostic d => d.display
  | failure f => "error: " ++ f.message
  | usage e => "error: " ++ e.message
  | crash => Log.FilterError.brokenCharacter.message

/-- What the program writes, and its exit code. -/
structure Outcome where
  code : UInt8
  output : String
  notices : List Notice
deriving DecidableEq

/-- What the program writes about a run. A run that did not come to its tokens has no output. -/
def Result.outcome : Result → Outcome
  | crashed => ⟨101, "", [.crash]⟩
  | failed log f => ⟨1, "", log.map .event ++ [.failure f]⟩
  | reported log shown output code => ⟨code, output, log.map .event ++ shown.map .diagnostic⟩

/-- The answer of the program to its arguments. -/
def answer {m : Type → Type} [Monad m] (host : Host m) (environment : Option String)
    (args : List String) : m Outcome := do
  match Request.ofArguments args with
  | .ok (.run o) => return (← run host environment o).outcome
  | .ok .help => return ⟨0, helpText, []⟩
  | .ok .fullHelp => return ⟨0, fullHelpText, []⟩
  | .ok .version => return ⟨0, versionText, []⟩
  | .error e => return ⟨2, "", [.usage e]⟩

end Tokenizer.Command
