import Tokenizer.Toml.Moment
import Tokenizer.Number.Binary64

/-!
# Values and tables

A document is a table: a list of keys with their values, in the order in which the keys were first
written. How a table came to be decides which later lines may still add to it.
-/

namespace Tokenizer.Toml

/-- How a table came to be. -/
inductive Origin
  /-- Written between braces, and complete. -/
  | inline
  /-- Opened by a header line of its own. -/
  | header
  /-- Named only on the way to a table below it. -/
  | implied
  /-- Made by a dotted key. -/
  | dotted
deriving DecidableEq

/-- A value of a document. -/
inductive Value
  | string (s : String)
  | integer (n : Int)
  | float (x : Number.Binary64)
  | boolean (b : Bool)
  | moment (m : Moment)
  | array (items : List Value)
  | table (origin : Origin) (entries : List (String × Value))
  /-- An array whose elements are tables with header lines of their own. -/
  | tables (elements : List (List (String × Value)))

/-- The contents of a table. -/
abbrev Entries := List (String × Value)

namespace Entries

/-- The value of a key. -/
def get? (es : Entries) (key : String) : Option Value :=
  es.lookup key

/-- The entries without those of a key. -/
def erase (es : Entries) (key : String) : Entries :=
  es.filter (·.1 != key)

/-- The entries with the value of a key replaced where it stands, or with the key at the end if it is
not there. The new value depends on the old one, and may be refused. -/
def update (change : Option Value → Option Value) (key : String) : Entries → Option Entries
  | [] => do return [(key, ← change none)]
  | (k, v) :: es =>
    if k = key then do return (k, ← change (some v)) :: es
    else do return (k, v) :: (← update change key es)

/-- Adds to the last of several elements. -/
def updateLast (change : Entries → Option Entries) : List Entries → Option (List Entries)
  | [] => none
  | [es] => do return [← change es]
  | es :: rest => do return es :: (← updateLast change rest)

/-- The entries with one more, whose key is given by the path of tables before it. The path makes the
tables it needs, and may run through tables made by other dotted keys, but not through values; the
last table on it has to be made by dotted keys. No key is given twice. -/
def insert (value : Value) : List String → String → Entries → Option Entries
  | [], key => update (fun old => if old.isSome then none else some value) key
  | step :: path, key => update
      (fun
        | none => .table .dotted <$> insert value path key []
        | some (.table .dotted es) => .table .dotted <$> insert value path key es
        | some (.table .implied es) =>
          if path.isEmpty then none else .table .implied <$> insert value path key es
        | some (.tables ts) =>
          if path.isEmpty then none else .tables <$> updateLast (insert value path key) ts
        | some _ => none)
      step

/-- Changes the table that a header's path leads to. The path makes the tables it needs, and may run
through all tables but complete ones; in an array of tables it leads through the last. -/
def descend (change : Entries → Option Entries) : List String → Entries → Option Entries
  | [] => change
  | step :: path => update
      (fun
        | none => .table .implied <$> descend change path []
        | some (.table origin es) =>
          if origin = .inline then none else .table origin <$> descend change path es
        | some (.tables ts) => .tables <$> updateLast (descend change path) ts
        | some _ => none)
      step

end Entries

end Tokenizer.Toml
