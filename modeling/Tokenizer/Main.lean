import Tokenizer.Command.Answer

/-!
# The program

The tokenizer as a program: it answers its arguments from the real file system, environment and
standard input, writes the outcome and ends with its exit code.
-/

namespace Tokenizer

/-- A failed operation of the system as a read fault. The system has one kind of error for a directory
that is read like a file and for a file that is entered like a directory; the code `21` is the former.
The code `36` is that of a long name. -/
def ReadFault.ofError : IO.Error → ReadFault
  | .noFileOrDirectory .. => missing
  | .inappropriateType _ code _ => if code = 21 then directory else underFile
  | .invalidArgument _ 36 _ => longName
  | e => other e.toString

/-- The text of a file of the system. -/
def readSystemFile (p : Path) : IO (Except ReadFault String) := do
  try return decodeUtf8 (← IO.FS.readBinFile ⟨p.text⟩)
  catch e => return .error (.ofError e)

/-- Whether a path names a regular file of the system. -/
def isSystemFile (p : Path) : IO Bool := do
  try
    let file ← IO.FS.realPath ⟨p.text⟩
    return match (← file.metadata).type with
      | .file => true
      | _ => false
  catch _ => return false

/-- The host that answers from the system. -/
def systemHost : Host IO where
  isFile := isSystemFile
  read := readSystemFile
  canonical? p := do
    try return some ⟨(← IO.FS.realPath ⟨p.text⟩).toString⟩
    catch _ => return none
  workingDirectory? := do
    try return some ⟨(← IO.currentDir).toString⟩
    catch _ => return none
  standardInput := do
    try return decodeUtf8 (← (← IO.getStdin).readBinToEnd)
    catch e => return .error (.ofError e)

end Tokenizer

/-- Answers the arguments of the command line. -/
def main (args : List String) : IO UInt32 := do
  let environment ← IO.getEnv "RUST_LOG"
  let outcome ← Tokenizer.Command.answer Tokenizer.systemHost environment args
  let errors ← IO.getStderr
  for n in outcome.notices do
    errors.putStrLn n.display
  let output ← IO.getStdout
  output.putStr outcome.output
  output.flush
  return outcome.code.toUInt32
