import Tokenizer.Settings.Basic
import Tokenizer.Toml.Value
import Tokenizer.Number.Shortest
import Tokenizer.Text.Escape

/-!
# The schema of a settings file

A settings file has up to three sections, each with a few fields, and nothing else. A section is
written as a table, or as an array of the values of its fields in their order. Keys are checked in
the order in which they stand in the document, and the first that does not fit is reported.

A field that is left out of a section keeps what the section's record starts with (`Record.bare`), and a
section that is left out is what the draft of a settings file has in its place.
-/

namespace Tokenizer.Settings

/-- What the output section says, before its texts are checked. -/
structure OutputDraft where
  format : Option String := none
  showEof : Bool := true
deriving DecidableEq

/-- What the check section says. -/
structure CheckDraft where
  denyIllegal : Bool := true
deriving DecidableEq

/-- What the log section says, before its texts are checked. -/
structure LogDraft where
  level : String := defaultLevel
deriving DecidableEq

/-- What a settings file says, before its texts are checked. -/
structure Draft where
  output : OutputDraft := {}
  check : CheckDraft := {}
  log : LogDraft := {}
deriving DecidableEq

/-- Why a document does not fit the schema. -/
inductive SchemaError
  /-- A key that is none of those expected at its place. -/
  | unknownField (key : String) (expected : List String)
  /-- A value of another type than the one wanted, each described in words. -/
  | wrongType (found wanted : String)
deriving DecidableEq

/-- A list of keys in words. -/
def expectedKeys : List String → String
  | [] => "there are no fields"
  | [a] => "expected `" ++ a ++ "`"
  | [a, b] => "expected `" ++ a ++ "` or `" ++ b ++ "`"
  | keys => "expected one of " ++ ", ".intercalate (keys.map fun k => "`" ++ k ++ "`")

/-- A schema error as it is shown. -/
def SchemaError.message : SchemaError → String
  | unknownField key expected => "unknown field `" ++ key ++ "`, " ++ expectedKeys expected
  | wrongType found wanted => "invalid type: " ++ found ++ ", expected " ++ wanted

/-- A value in words. -/
def describe : Toml.Value → String
  | .string s => "string " ++ Text.quote s
  | .integer n => "integer `" ++ toString n ++ "`"
  | .float x => "floating point `" ++ x.positional ++ "`"
  | .boolean b => "boolean `" ++ toString b ++ "`"
  | .array _ | .tables _ => "sequence"
  | .moment _ | .table _ _ => "map"

variable {σ τ : Type}

/-- A key, and what a value of it changes. -/
structure Field (σ : Type) where
  key : String
  set : Toml.Value → σ → Except SchemaError σ

namespace Field

/-- A field that holds a text. -/
def text (key : String) (store : String → σ → σ) : Field σ where
  key := key
  set
    | .string s, d => .ok (store s d)
    | v, _ => .error (.wrongType (describe v) "a string")

/-- A field that holds a truth value. -/
def flag (key : String) (store : Bool → σ → σ) : Field σ where
  key := key
  set
    | .boolean b, d => .ok (store b d)
    | v, _ => .error (.wrongType (describe v) "a boolean")

end Field

/-- Sets one field by its key. -/
def setField (fields : List (Field σ)) (d : σ) (entry : String × Toml.Value) :
    Except SchemaError σ :=
  match fields.find? (·.key == entry.1) with
  | some f => f.set entry.2 d
  | none => .error (.unknownField entry.1 (fields.map Field.key))

/-- Sets fields by their keys, in the order of the entries. -/
def setByKey (fields : List (Field σ)) (es : Toml.Entries) (d : σ) : Except SchemaError σ :=
  es.foldlM (setField fields) d

/-- Sets fields by their place in an array. Values beyond the last field are not looked at. -/
def setByPlace (fields : List (Field σ)) (vs : List Toml.Value) (d : σ) : Except SchemaError σ :=
  (fields.zip vs).foldlM (fun d (f, v) => f.set v d) d

/-- The one key of a date or a time where a table is wanted. -/
def momentKey : String := "$__toml_private_datetime"

/-- What is read as a whole: its name, its fields, and what it is if none of them is given. -/
structure Record (σ : Type) where
  name : String
  fields : List (Field σ)
  bare : σ

/-- Reads a record. -/
def Record.read (r : Record σ) : Toml.Value → Except SchemaError σ
  | .table _ es => setByKey r.fields es r.bare
  | .array vs => setByPlace r.fields vs r.bare
  | .tables ts => setByPlace r.fields (ts.map (.table .header)) r.bare
  | .moment m => setByKey r.fields [(momentKey, .moment m)] r.bare
  | v => .error (.wrongType (describe v) ("struct " ++ r.name))

/-- A field that holds a record. -/
def Field.record (key : String) (r : Record τ) (store : τ → σ → σ) : Field σ where
  key := key
  set v d := return store (← r.read v) d

/-- The output section. -/
def outputRecord : Record OutputDraft where
  name := "RawOutput"
  fields :=
    [.text "format" fun s d => { d with format := some s },
      .flag "show_eof" fun b d => { d with showEof := b }]
  bare := ⟨none, true⟩

/-- The check section. -/
def checkRecord : Record CheckDraft where
  name := "RawCheck"
  fields := [.flag "deny_illegal" fun b d => { d with denyIllegal := b }]
  bare := ⟨true⟩

/-- The log section. -/
def logRecord : Record LogDraft where
  name := "RawLog"
  fields := [.text "level" fun s d => { d with level := s }]
  bare := ⟨defaultLevel⟩

/-- The sections of a settings file. -/
def sections : List (Field Draft) :=
  [.record "output" outputRecord fun o d => { d with output := o },
    .record "check" checkRecord fun c d => { d with check := c },
    .record "log" logRecord fun l d => { d with log := l }]

/-- What a document says, if it fits the schema. -/
def Draft.ofEntries (es : Toml.Entries) : Except SchemaError Draft :=
  setByKey sections es {}

end Tokenizer.Settings
