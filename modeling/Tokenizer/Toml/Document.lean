import Tokenizer.Toml.Quoted
import Tokenizer.Toml.Number
import Tokenizer.Toml.Value

/-!
# Documents

A document is a list of lines: entries `key = value`, headers `[table]`, and headers `[[element]]`
that each start a further table of an array. Entries belong to the header before them.

A table may be opened by a header only once, but a table that was only implied by the header of
another may still get its own; it then moves to the end of the table it is in. Arrays and inline
tables hold one another up to a fixed depth, and a key has up to as many parts.
-/

namespace Tokenizer.Toml

/-! ### Keys -/

/-- The depth to which values may be nested, and the greatest number of parts of a key. -/
def maxDepth : Nat := 79

/-- Whether a character may stand in a key without quotes. -/
def isBareKeyChar (c : Char) : Bool :=
  c.isAlphanum || c == '_' || c == '-'

/-- One part of a key: bare, or a string on one line. -/
def keyPart : Scan String :=
  singleLine '"' <|> singleLine '\'' <|> .ofList <$> Scan.run₁ isBareKeyChar

/-- A key: the path of the tables it leads through, and its last part. -/
def key : Scan (List String × String) := do
  let parts ← Scan.separated (blanks *> keyPart <* blanks) (Scan.exactly '.')
  guard (parts.length ≤ maxDepth)
  match parts.getLast? with
  | some last => return (parts.dropLast, last)
  | none => failure

/-! ### Values -/

/-- A key with its value. -/
structure Entry where
  path : List String
  key : String
  value : Value

/-- The entries with further ones, each inserted by its key. -/
def Entries.insertAll (es : Entries) (new : List Entry) : Option Entries :=
  new.foldlM (fun es e => es.insert e.value e.path e.key) es

/-- A key, an equals sign and a value. -/
def entry (value : Scan Value) : Scan Entry := do
  let (path, key) ← key
  Scan.exactly '='
  blanks
  return ⟨path, key, ← value⟩

/-- A value that holds no other. -/
def scalar : Scan Value :=
  .string <$> quotedString
    <|> (do Scan.literally ['t', 'r', 'u', 'e']; return .boolean true)
    <|> (do Scan.literally ['f', 'a', 'l', 's', 'e']; return .boolean false)
    <|> .moment <$> moment
    <|> .float <$> float
    <|> .integer <$> integer

/-- An array, in which a comma may follow the last element too. -/
def array (element : Scan Value) : Scan Value := do
  Scan.exactly '['
  let items ← optional do
    let items ← Scan.separated (padding *> element <* padding) (Scan.exactly ',')
    discard <| optional (Scan.exactly ',')
    return items
  padding
  Scan.exactly ']'
  return .array (items.getD [])

/-- A table between braces on one line. -/
def inlineTable (value : Scan Value) : Scan Value := do
  Scan.exactly '{'
  let entries ← optional (Scan.separated (entry value <* blanks) (Scan.exactly ','))
  blanks
  Scan.exactly '}'
  match Entries.insertAll [] (entries.getD []) with
  | some es => return .table .inline es
  | none => failure

/-- A value in which arrays and inline tables are nested at most so deep. -/
def value : Nat → Scan Value
  | 0 => scalar
  | depth + 1 => scalar <|> array (value depth) <|> inlineTable (value depth)

/-! ### Lines -/

/-- What a line of a document says. -/
inductive Line
  | blank
  | entry (e : Entry)
  | table (path : List String) (key : String)
  | element (path : List String) (key : String)

/-- One line, with its end. -/
def line : Scan Line := do
  blanks
  guard !(← get).isEmpty
  let content ← optional <|
    (do
      Scan.literally ['[', '[']
      let (path, key) ← key
      Scan.literally [']', ']']
      return .element path key)
    <|> (do
      Scan.exactly '['
      let (path, key) ← key
      Scan.exactly ']'
      return .table path key)
    <|> .entry <$> entry (value maxDepth)
  lineEnd
  return content.getD .blank

/-- All lines of a document, which may start with a byte order mark. -/
def lines : Scan (List Line) := do
  discard <| optional (Scan.exactly '\uFEFF')
  let ls ← line.repeated
  blanks
  Scan.endOfText
  return ls

/-! ### Building -/

/-- A header line with the entries that belong to it. -/
structure Block where
  isElement : Bool
  path : List String
  key : String
  entries : List Entry

/-- The entries before the first header, and the headers with their entries. -/
def blocks : List Line → List Entry × List Block
  | [] => ([], [])
  | .blank :: ls => blocks ls
  | .entry e :: ls => let (es, bs) := blocks ls; (e :: es, bs)
  | .table path key :: ls => let (es, bs) := blocks ls; ([], ⟨false, path, key, es⟩ :: bs)
  | .element path key :: ls => let (es, bs) := blocks ls; ([], ⟨true, path, key, es⟩ :: bs)

/-- Opens a table by its header. What a table implied before already holds stays in it. -/
def openTable (key : String) (new : List Entry) (es : Entries) : Option Entries := do
  let held ←
    match es.get? key with
    | none => pure []
    | some (.table .implied held) => pure held
    | some _ => none
  return es.erase key ++ [(key, .table .header (← Entries.insertAll held new))]

/-- Adds a table to an array of tables, which the first element makes. -/
def addElement (key : String) (new : List Entry) : Entries → Option Entries :=
  Entries.update
    (fun
      | none => do return .tables [← Entries.insertAll [] new]
      | some (.tables ts) => do return .tables (ts ++ [← Entries.insertAll [] new])
      | some _ => none)
    key

/-- Adds a header with its entries to the document so far. -/
def Block.addTo (b : Block) : Entries → Option Entries :=
  Entries.descend ((if b.isElement then addElement else openTable) b.key b.entries) b.path

/-- The table that a document denotes, or nothing if it is no document. -/
def document? (text : String) : Option Entries := do
  let (ls, _) ← lines text.toList
  let (es, bs) := blocks ls
  bs.foldlM (fun es b => b.addTo es) (← Entries.insertAll [] es)

end Tokenizer.Toml
