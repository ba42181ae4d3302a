import Tokenizer.Command.Options
import Tokenizer.Lexer
import Tokenizer.Log.Filter
import Tokenizer.Settings.Load
import Tokenizer.Token.Listing

/-!
# Runs of the program

A run finds its settings, sets up its log, reads its source, reads the tokens in it and reports. The
first of these that fails ends the run with one failure and no output. A log filter of which a part
ends inside a character does not fail: the run breaks off over it.

Settings come from the file that the options name, or else from the nearest settings file in the
directory of the source or above it; where there is none, or no such directory, the defaults hold.
-/

namespace Tokenizer.Command

/-- Why a run did not come to its tokens. -/
inductive Failure
  | settings (e : SettingsError)
  | logging (e : Log.FilterError)
  /-- A source, by the name it was given, could not be read. -/
  | source (name : String) (fault : ReadFault)
deriving DecidableEq

/-- A failure as it is shown. -/
def Failure.message : Failure → String
  | settings e => e.message
  | logging e => "failed to initialize logging: " ++ e.message
  | source name fault => "could not read '" ++ name ++ "': " ++ fault.message

/-- What a run comes to, after the events that it logged. -/
inductive Result
  /-- The run broke off over its log filter, of which a part ends inside a character. -/
  | crashed
  /-- The run did not come to its tokens. -/
  | failed (log : List Log.Event) (f : Failure)
  /-- The run came to its tokens, showed some diagnostics and printed its output. -/
  | reported (log : List Log.Event) (shown : List Diagnostic) (output : String) (code : UInt8)
deriving DecidableEq

/-! ### Settings and log -/

variable {m : Type → Type} [Monad m]

/-- The source file of a run, or nothing if the source is the standard input. -/
def Options.source? (o : Options) : Option Path :=
  o.input.filter (!·.isDash)

/-- The directory from which settings are searched for. -/
def searchStart? (host : Host m) : Option Path → m (Option Path)
  | some p => do return (← host.canonical? p).bind Path.parent?
  | none => host.workingDirectory?

/-- The settings of a run. -/
def findSettings (host : Host m) (o : Options) : m (Except SettingsError Settings) := do
  match o.config with
  | some p => Settings.load host p
  | none =>
    match ← searchStart? host o.source? with
    | none => return .ok {}
    | some start =>
      match ← Settings.findAndLoad host start with
      | .error (.notFound _) => return .ok {}
      | r => return r

/-- The text of the log filter of a run: that of the environment unless it is empty, or else one for
a verbose run, or else that of the settings. -/
def filterText (o : Options) (environment : Option String) (s : Settings) : String :=
  match environment.filter (· ≠ "") with
  | some text => text
  | none => if o.has .verbose then "debug" else s.log.level

/-! ### Report -/

/-- Everything that a run logs about its source. -/
def sourceEvents (source : String) (tokens : List Token) (findings : Findings) : List Log.Event :=
  .sourceRead source :: tokens.map .tokenFound ++ [.tokenized tokens.length findings.errorCount]

/-- The diagnostics that a run shows. A quiet run shows errors only. -/
def Options.shownDiagnostics (o : Options) (findings : Findings) : List Diagnostic :=
  findings.diagnostics.filter fun d => d.isError || !o.has .quiet

/-- The tokens that a run prints. -/
def Options.shownTokens (o : Options) (s : Settings) (tokens : List Token) : List Token :=
  tokens.filter fun t => s.output.showEof && !o.has .noEof || !t.isEof

/-- What a run that only checks prints. -/
def summary (findings : Findings) : String :=
  if findings.isEmpty then "No illegal tokens.\n"
  else toString findings.errorCount ++ " illegal token(s), " ++ toString findings.warningCount ++
    " warning(s) found.\n"

/-- What a run prints. -/
def Options.output (o : Options) (s : Settings) (tokens : List Token) (findings : Findings) :
    String :=
  if o.has .check then summary findings
  else Token.listing (o.format.getD s.output.format) (o.shownTokens s tokens)

/-- The exit code of a run that came to its tokens. -/
def exitCode (s : Settings) (findings : Findings) : UInt8 :=
  if s.check.denyIllegal && findings.hasErrors then 1 else 0

/-- What a run with a source comes to, after the events that it logged before. -/
def report (o : Options) (s : Settings) (filter : Log.Filter) (before : List Log.Event)
    (source : String) : Result :=
  let (tokens, findings) := (Lexer.ofString source).tokenize
  .reported (before ++ (sourceEvents source tokens findings).filter filter.allows)
    (o.shownDiagnostics findings) (o.output s tokens findings) (exitCode s findings)

/-! ### Runs -/

/-- The source of a run. -/
def readSource (host : Host m) : Option Path → m (Except Failure String)
  | some p => do return (← host.read p).mapError (.source p.text)
  | none => do return (← host.standardInput).mapError (.source "<stdin>")

/-- A run of the program. -/
def run (host : Host m) (environment : Option String) (o : Options) : m Result := do
  match ← findSettings host o with
  | .error e => return .failed [] (.settings e)
  | .ok s =>
    match Log.Filter.parse (filterText o environment s) with
    | .error .brokenCharacter => return .crashed
    | .error e => return .failed [] (.logging e)
    | .ok filter =>
      let before := (s.rootDirectory.map Log.Event.settingsLoaded).toList.filter filter.allows
      match ← readSource host o.source? with
      | .error f => return .failed before f
      | .ok source => return report o s filter before source

end Tokenizer.Command
