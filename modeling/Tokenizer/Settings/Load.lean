import Tokenizer.Settings.Schema
import Tokenizer.Toml.Document
import Tokenizer.Text.WhiteSpace
import Tokenizer.Host

/-!
# Reading settings

Settings come from the text of a settings file: it has to be a document, the document has to fit the
schema, the format has to have a known name and the log level must not be blank, checked in this
order. A settings file is searched for from a directory up, along the parents of its path.
-/

namespace Tokenizer.Settings

/-- The name of a settings file. -/
def fileName : String := "Golex.toml"

end Settings

/-- Why there are no settings. -/
inductive SettingsError
  /-- No directory from `start` up holds a settings file. -/
  | notFound (start : Path)
  | unreadable (fault : ReadFault)
  /-- The text is no document. -/
  | malformed
  | schema (e : Settings.SchemaError)
  | unknownFormat (name : String)
  | emptyLevel
deriving DecidableEq

/-- A settings error as it is shown. -/
def SettingsError.message : SettingsError → String
  | notFound start => "no Golex.toml found (searched from " ++ start.text ++ ")"
  | unreadable fault => "failed to read Golex.toml: " ++ fault.message
  | malformed => "invalid Golex.toml: syntax"
  | schema e => "invalid Golex.toml: " ++ e.message
  | unknownFormat name => Format.unknownMessage name
  | emptyLevel => "invalid Golex.toml: [log] level must not be empty"

namespace Settings

/-- The settings that a draft describes, if its texts are valid. -/
def ofDraft (d : Draft) (root : Option Path) : Except SettingsError Settings := do
  let format ←
    match d.output.format with
    | none => pure ({} : OutputSettings).format
    | some name =>
      match Format.ofName? name with
      | some format => pure format
      | none => throw (.unknownFormat name)
  if d.log.level.toList.all Text.isWhiteSpace then throw .emptyLevel
  return {
    output := ⟨format, d.output.showEof⟩
    check := ⟨d.check.denyIllegal⟩
    log := ⟨d.log.level⟩
    rootDirectory := root }

/-- The settings that a document describes. -/
def ofEntries (es : Toml.Entries) (root : Option Path) : Except SettingsError Settings :=
  match Draft.ofEntries es with
  | .ok d => ofDraft d root
  | .error e => .error (.schema e)

/-- The settings that a text describes. -/
def parse (text : String) (root : Option Path) : Except SettingsError Settings :=
  match Toml.document? text with
  | some es => ofEntries es root
  | none => .error .malformed

variable {m : Type → Type} [Monad m]

/-- The settings in a file. -/
def load (host : Host m) (p : Path) : m (Except SettingsError Settings) := do
  match ← host.read p with
  | .ok text => return parse text (some (p.parent?.getD ⟨"."⟩))
  | .error fault => return .error (.unreadable fault)

/-- The first settings file along a path and its parents. -/
def find? (host : Host m) (start : Path) : m (Option Path) :=
  (start.ancestors.map (·.join fileName)).findM? host.isFile

/-- The settings in the first settings file along a path and its parents. -/
def findAndLoad (host : Host m) (start : Path) : m (Except SettingsError Settings) := do
  match ← find? host start with
  | some p => load host p
  | none => return .error (.notFound start)

end Settings

end Tokenizer
