import Tokenizer.Host

/-!
# File trees

A tree of files and directories without links. A place in it is the list of names that lead to it
from the root. A path is followed segment by segment: each segment needs a directory to start from,
an empty segment and a single dot stay there, and two dots go up, from the root to the root itself.
No file has a name of more than 255 bytes.
-/

namespace Tokenizer

/-- The names that lead from the root to a place. -/
abbrev Location := List String

/-- What stands at a place. -/
inductive FileTree.Entry
  | file (content : ByteArray)
  | directory

/-- What stands at the places of a tree. The root is always a directory. -/
structure FileTree where
  entries : List (Location × FileTree.Entry)

namespace FileTree

/-- The tree with nothing in it. -/
def empty : FileTree :=
  ⟨[]⟩

/-- What stands at a place, if anything does. -/
def entry? (t : FileTree) (l : Location) : Option Entry :=
  if l = [] then some .directory else t.entries.lookup l

/-- Whether a directory stands at a place. -/
def isDirectory (t : FileTree) (l : Location) : Bool :=
  match t.entry? l with
  | some .directory => true
  | _ => false

/-! ### Growing -/

/-- The tree with something at a place, in place of what was there. -/
def put (t : FileTree) (l : Location) (e : Entry) : FileTree :=
  ⟨(l, e) :: t.entries⟩

/-- The tree with directories at a place and all the way to it. -/
def addDirectory (t : FileTree) (l : Location) : FileTree :=
  (List.range l.length).foldl
    (fun t n => if (t.entry? (l.take (n + 1))).isNone then t.put (l.take (n + 1)) .directory else t) t

/-- The tree with a file at a place, and directories all the way to it. -/
def addFile (t : FileTree) (l : Location) (content : ByteArray) : FileTree :=
  (t.addDirectory l.dropLast).put l (.file content)

/-! ### Following paths -/

/-- How many bytes a file name may have. -/
def longestName : Nat := 255

/-- Where one segment of a path leads to. -/
def follow (t : FileTree) (l : Location) (segment : String) : Except ReadFault Location :=
  if !t.isDirectory l then .error .underFile
  else if segment = "" ∨ segment = "." then .ok l
  else if segment = ".." then .ok l.dropLast
  else if longestName < segment.utf8ByteSize then .error .longName
  else if (t.entry? (l ++ [segment])).isSome then .ok (l ++ [segment])
  else .error .missing

/-- The place that a path names, for a given working directory. The empty path names nothing. -/
def locate (t : FileTree) (here : Location) (p : Path) : Except ReadFault Location :=
  if '\x00' ∈ p.text.toList then .error .badName
  else if p.text = "" then .error .missing
  else p.segments.foldlM t.follow (if p.isAbsolute then [] else here)

/-- The text of the file at a place. -/
def readAt (t : FileTree) (l : Location) : Except ReadFault String :=
  match t.entry? l with
  | some (.file content) => decodeUtf8 content
  | some .directory => .error .directory
  | none => .error .missing

end FileTree

/-- The path from the root to a place. -/
def Location.path (l : Location) : Path :=
  ⟨"/" ++ "/".intercalate l⟩

/-- A file tree with a working directory in it and something on the standard input. -/
structure World where
  tree : FileTree
  here : Location
  input : ByteArray

namespace World

/-- The place that a path names. -/
def locate (w : World) (p : Path) : Except ReadFault Location :=
  w.tree.locate w.here p

/-- Whether a path names a regular file. -/
def isFile (w : World) (p : Path) : Bool :=
  match w.locate p with
  | .ok l => (w.tree.entry? l).any fun | .file _ => true | .directory => false
  | .error _ => false

/-- The text of the file that a path names. -/
def read (w : World) (p : Path) : Except ReadFault String := do
  w.tree.readAt (← w.locate p)

/-- The path from the root to what a path names. -/
def canonical? (w : World) (p : Path) : Option Path :=
  (w.locate p).toOption.map Location.path

/-- The host that answers from a world. -/
def host (w : World) : Host Id where
  isFile := w.isFile
  read := w.read
  canonical? := w.canonical?
  workingDirectory? := some (Location.path w.here)
  standardInput := decodeUtf8 w.input

end World

end Tokenizer
