import Tokenizer.Path

/-!
# The host of a run

What a run may ask of the world around it, in whatever monad the answers come. Paths that do not
start at the root start at the working directory.
-/

namespace Tokenizer

/-- Why a file or a stream could not be read as text. -/
inductive ReadFault
  | missing
  | underFile
  | directory
  | notText
  /-- The path holds a NUL, which no file name does. -/
  | badName
  /-- The path holds a name that is longer than any file name. -/
  | longName
  | other (text : String)
deriving DecidableEq

/-- A read fault as it is shown. -/
def ReadFault.message : ReadFault → String
  | missing => "No such file or directory (os error 2)"
  | underFile => "Not a directory (os error 20)"
  | directory => "Is a directory (os error 21)"
  | notText => "stream did not contain valid UTF-8"
  | badName => "file name contained an unexpected NUL byte"
  | longName => "File name too long (os error 36)"
  | other text => text

/-- Bytes as text, if they are UTF-8. -/
def decodeUtf8 (bytes : ByteArray) : Except ReadFault String :=
  match String.fromUTF8? bytes with
  | some text => .ok text
  | none => .error .notText

/-- The questions of a run to the world around it. -/
structure Host (m : Type → Type) where
  /-- Whether a path names a regular file. -/
  isFile : Path → m Bool
  /-- The text of a file. -/
  read : Path → m (Except ReadFault String)
  /-- The path from the root to what a path names, if it names anything. -/
  canonical? : Path → m (Option Path)
  /-- The path from the root to the working directory. -/
  workingDirectory? : m (Option Path)
  /-- The text of the standard input. -/
  standardInput : m (Except ReadFault String)

end Tokenizer
