import Tokenizer.Scan
import Tokenizer.Text.Alphanumeric
import Tokenizer.Text.WhiteSpace

/-!
# Patterns

The regular expressions that a log filter takes as values of fields. None is ever compared with
anything here, so all that matters of a text is whether it is one.

A pattern stands for Unicode text unless it says otherwise, but no tables of Unicode are there for
it. What would need one is refused: ignoring case, the classes of digits, blanks and word
characters, the bounds of words, and properties. Without Unicode in turn, what may match half a
character is refused: the dot and classes that exclude. Repetition counts never come to their
closing brace, for that brace ends the field of a filter.
-/

namespace Tokenizer.Log

namespace Pattern

/-- How a pattern is to be read, which it may change on its way. -/
structure Flags where
  ignoresCase : Bool := false
  /-- Blanks and comments do not count. -/
  verbose : Bool := false
  unicode : Bool := true

/-- Whether flags turn a character into all its cases in Unicode, for which there is no table. -/
def Flags.needCases (f : Flags) : Bool :=
  f.ignoresCase && f.unicode

/-- The flags after some were turned on and some off, by their letters. -/
def Flags.change (f : Flags) (on off : List Char) : Flags where
  ignoresCase := (f.ignoresCase || on.contains 'i') && !off.contains 'i'
  verbose := (f.verbose || on.contains 'x') && !off.contains 'x'
  unicode := (f.unicode || on.contains 'u') && !off.contains 'u'

/-- The letters of flags to turn on and of those to turn off, after a minus sign. No letter may come
twice. -/
def flagLetters : Scan (List Char × List Char) := do
  let isFlag := fun c => "imsUuRx".toList.contains c
  let on ← Scan.run isFlag
  let off ← (do Scan.exactly '-'; Scan.run₁ isFlag) <|> return []
  guard (on ++ off).Nodup
  return (on, off)

/-! ### Escapes -/

/-- What an escape stands for. -/
inductive Escape
  | character (c : Char)
  | characters
  /-- A condition on what is around, such as the end of the text. -/
  | bound

/-- An escape, after its backslash. -/
def escape (f : Flags) : Scan Escape := do
  match ← Scan.char fun _ => true with
  | 'a' => return .character '\x07'
  | 't' => return .character '\t'
  | 'n' => return .character '\n'
  | 'v' => return .character '\x0b'
  | 'f' => return .character '\x0c'
  | 'r' => return .character '\r'
  | 'x' => return .character (← Scan.codePoint 2)
  | 'u' => return .character (← Scan.codePoint 4)
  | 'U' => return .character (← Scan.codePoint 8)
  | 'A' | 'z' => return .bound
  | 'b' | 'B' | '<' | '>' => do
    guard !f.unicode
    return .bound
  | 'd' | 's' | 'w' => do
    guard !f.unicode
    return .characters
  | c => do
    guard (c.val < 128 && !c.isAlphanum)
    return .character c

/-! ### Classes -/

/-- The names of classes of ASCII characters. -/
def classNames : List String :=
  ["alnum", "alpha", "ascii", "blank", "cntrl", "digit", "graph", "lower", "print", "punct",
    "space", "upper", "word", "xdigit"]

/-- A class of ASCII characters by its name, inside another class. -/
def namedClass : Scan Unit := do
  Scan.literally ['[', ':']
  discard <| optional (Scan.exactly '^')
  let name ← Scan.run Char.isLower
  guard (classNames.contains (.ofList name))
  Scan.literally [':', ']']

/-- The start of a class, after its bracket. Dashes, or else a closing bracket, stand for themselves
there. -/
def classStart (f : Flags) : Scan Unit := do
  discard <| optional (do guard f.unicode; Scan.exactly '^')
  let dashes ← Scan.run (· == '-')
  if dashes = [] then discard <| optional (Scan.exactly ']')

/-- An end of a range, or a member of a class on its own. -/
def classMember (f : Flags) : Scan Escape := do
  match ← Scan.char fun _ => true with
  | '\\' =>
    match ← escape f with
    | .bound => failure
    | e => return e
  | c => return .character c

/-- A member of a class, or a range of characters in ascending order. A dash before a closing
bracket or another dash makes no range. -/
def classRange (f : Flags) : Scan Unit := do
  let first ← classMember f
  match ← get with
  | '-' :: ']' :: _ | '-' :: '-' :: _ => return
  | '-' :: _ =>
    Scan.exactly '-'
    match first, ← classMember f with
    | .character a, .character b => guard (a ≤ b)
    | _, _ => failure
  | _ => return

/-- A part of classes that stand `depth` deep in one another, to the depth after it. -/
def classPart (f : Flags) (depth : Nat) : Scan Nat :=
  (do namedClass; return depth)
    <|> (do Scan.exactly '['; classStart f; return depth + 1)
    <|> (do Scan.exactly ']'; return depth - 1)
    <|> (do
      Scan.literally ['&', '&'] <|> Scan.literally ['-', '-'] <|> Scan.literally ['~', '~']
      return depth)
    <|> (do classRange f; return depth)

/-- The rest of classes to where the outermost one ends, in no more parts than a text has
characters. -/
def classRest (f : Flags) : List Char → Nat → Scan Unit
  | _, 0 => return
  | [], _ => failure
  | _ :: limit, depth => do classRest f limit (← classPart f depth)

/-- A class, after its bracket. -/
def charClass (f : Flags) : Scan Unit := do
  guard !f.needCases
  classStart f
  classRest f (← get) 1

/-! ### Groups -/

/-- What is known of a pattern on the way through it. -/
structure Standing where
  flags : Flags := {}
  /-- The flags outside the groups that are open, the innermost first. -/
  outer : List Flags := []
  /-- The names of groups so far. -/
  names : List (List Char) := []
  /-- Whether something that may be repeated has just ended. -/
  repeatable : Bool := false

namespace Standing

/-- The standing in a new group. -/
def enter (s : Standing) (flags : Flags) : Standing :=
  { s with flags, outer := s.flags :: s.outer, repeatable := false }

/-- The standing after the innermost group, if there is one. -/
def leave (s : Standing) : Option Standing :=
  match s.outer with
  | flags :: outer => some { s with flags, outer, repeatable := true }
  | [] => none

/-- The start of a group with a name of its own, after its parenthesis. -/
def namedGroup (s : Standing) : Scan Standing := do
  Scan.exactly '?'
  discard <| optional (Scan.exactly 'P')
  Scan.exactly '<'
  let first ← Scan.char fun c => c == '_' || Text.isAlphanumeric c && !c.isDigit
  let rest ← Scan.run fun c => ['_', '.', '[', ']'].contains c || Text.isAlphanumeric c
  Scan.exactly '>'
  guard !s.names.contains (first :: rest)
  return { s.enter s.flags with names := (first :: rest) :: s.names }

/-- The start of a group with flags of its own, or flags for the rest of the group around them,
after the parenthesis. -/
def flagGroup (s : Standing) : Scan Standing := do
  Scan.exactly '?'
  let (on, off) ← flagLetters
  let flags := s.flags.change on off
  (do Scan.exactly ':'; return s.enter flags)
    <|> (do
      guard (on ++ off != [])
      Scan.exactly ')'
      return { s with flags, repeatable := false })

/-- The start of a group, after its parenthesis. -/
def group (s : Standing) : Scan Standing :=
  s.namedGroup <|> s.flagGroup <|> do
    guard ((← get).head? != some '?')
    return s.enter s.flags

/-! ### Patterns as a whole -/

/-- A part of a pattern. -/
def part (s : Standing) : Scan Standing := do
  let after := { s with repeatable := true }
  match ← Scan.char fun _ => true with
  | '(' => s.group
  | ')' => s.leave.elim failure pure
  | '|' => return { s with repeatable := false }
  | '*' | '+' | '?' => do
    guard s.repeatable
    return s
  | '{' => failure
  | '[' => do
    charClass s.flags
    return after
  | '\\' =>
    match ← escape s.flags with
    | .character _ => do
      guard !s.flags.needCases
      return after
    | _ => return after
  | '.' => do
    guard s.flags.unicode
    return after
  | '^' | '$' => return after
  | c =>
    if s.flags.verbose && Text.isWhiteSpace c then return s
    else if s.flags.verbose && c == '#' then do
      discard <| Scan.run (· != '\n')
      return s
    else do
      guard !s.flags.needCases
      return after

/-- The end of a pattern, where no group may be open. -/
def finish (s : Standing) : Scan Unit := do
  Scan.endOfText
  guard s.outer.isEmpty

/-- The rest of a pattern, in no more parts than a text has characters. -/
def parts (s : Standing) : List Char → Scan Unit
  | [] => s.finish
  | _ :: limit => s.finish <|> do (← s.part).parts limit

end Standing

end Pattern

/-- Whether a text is a pattern. -/
def isPattern (cs : List Char) : Bool :=
  (StateT.run (Pattern.Standing.parts {} cs) cs).isSome

end Tokenizer.Log
