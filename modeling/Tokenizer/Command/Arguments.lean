import Tokenizer.Command.Options

/-!
# Reading arguments

Arguments are read from left to right. An argument that starts with two dashes is an option by its
long name, perhaps with a value after an equals sign; one that starts with a single dash and goes on
is a row of letters; every other argument is the value of the option before it, if that still lacks
one, or else the source file. After a lone double dash every argument is a source file.

A value is checked only when it is settled, which is when the next known argument comes or at the
end. So an argument that is not known at all is reported before a wrong value in front of it.
-/

namespace Tokenizer.Command

/-- The arguments read so far. -/
structure Reading where
  options : Options := {}
  /-- A parameter that is not settled yet, with its value if it has come. -/
  pending : Option (Parameter × Option String) := none
  /-- Whether a source file was named. -/
  hasInput : Bool := false
  /-- Whether a lone double dash was read. -/
  onlyInputs : Bool := false

/-- What an option asks for by its name. -/
inductive Named
  | switch (s : Switch)
  | parameter (p : Parameter)
  | display (shown : String) (r : Request)

namespace Named

/-- The option of a long name. -/
def ofName? (n : String) : Option Named :=
  if n = "format" then some (parameter .format)
  else if n = "config" then some (parameter .config)
  else if n = "help" then some (display "--help" .fullHelp)
  else if n = "version" then some (display "--version" .version)
  else (Switch.all.find? (·.name == n)).map switch

/-- The option of a letter. -/
def ofLetter? (c : Char) : Option Named :=
  if c = 'h' then some (display "--help" .help)
  else if c = 'V' then some (display "--version" .version)
  else (Switch.all.find? (·.letter? == some c)).map switch

end Named

/-- What became of an argument: the reading goes on, or the program shows something at once. -/
inductive Progress
  | more (r : Reading)
  | done (request : Request)

namespace Options

/-- Gives a parameter its value. A parameter has one value only, and it is not empty. -/
def store (o : Options) (p : Parameter) (value : String) : Except UsageError Options :=
  match p with
  | .format =>
    if o.format.isSome then .error (.repeated p.shown)
    else
      match Format.ofName? value with
      | some f => .ok { o with format := some f }
      | none => .error (.unknownFormat value)
  | .config =>
    if o.config.isSome then .error (.repeated p.shown)
    else if value = "" then .error (.missingValue p)
    else .ok { o with config := some ⟨value⟩ }
  | .input =>
    if value = "" then .error (.missingValue p) else .ok { o with input := some ⟨value⟩ }

/-- Turns a switch on, which can be done once only. -/
def turnOn (o : Options) (s : Switch) : Except UsageError Options :=
  if o.has s then .error (.repeated ("--" ++ s.name))
  else .ok { o with switches := o.switches ++ [s] }

end Options

namespace Reading

/-- Settles the parameter that is pending. -/
def settle (r : Reading) : Except UsageError Reading :=
  match r.pending with
  | none => .ok r
  | some (p, none) => .error (.missingValue p)
  | some (p, some value) => do return { r with options := ← r.options.store p value, pending := none }

/-- Reads an option that has no value attached. -/
def named (r : Reading) (n : Named) : Except UsageError Progress := do
  let r ← r.settle
  match n with
  | .switch s => return .more { r with options := ← r.options.turnOn s }
  | .parameter p => return .more { r with pending := some (p, none) }
  | .display _ request => return .done request

/-- Reads an option with the value that is attached to it. -/
def attached (r : Reading) (n : Named) (value : String) : Except UsageError Progress := do
  match n with
  | .switch s => throw (.unexpectedValue value ("--" ++ s.name))
  | .display shown _ => throw (.unexpectedValue value shown)
  | .parameter p =>
    let r ← r.settle
    return .more { r with options := ← r.options.store p value }

/-- Reads an option by its long name and what is attached to it. -/
def long (r : Reading) (name : String) (value : Option String) : Except UsageError Progress :=
  match Named.ofName? name, value with
  | none, _ => .error (.unexpectedArgument ("--" ++ name))
  | some n, none => r.named n
  | some n, some value => r.attached n value

/-- Reads a row of letters. -/
def letters (r : Reading) : List Char → Except UsageError Progress
  | [] => .ok (.more r)
  | c :: cs =>
    match Named.ofLetter? c with
    | none => .error (.unexpectedArgument ("-" ++ c.toString))
    | some n => do
      match ← r.named n with
      | .more r => r.letters cs
      | .done request => return .done request

/-- Reads the name of a source file. -/
def input (r : Reading) (arg : String) : Except UsageError Progress := do
  if r.hasInput then throw (.unexpectedArgument arg)
  let r ← r.settle
  return .more { r with pending := some (.input, some arg), hasInput := true }

/-- Reads an argument that is no option. -/
def plain (r : Reading) (arg : String) : Except UsageError Progress :=
  match r.pending with
  | some (p, none) => .ok (.more { r with pending := some (p, some arg) })
  | _ => r.input arg

/-- Reads one argument. -/
def argument (r : Reading) (arg : String) : Except UsageError Progress :=
  if r.onlyInputs then r.input arg
  else
    match arg.toList with
    | ['-', '-'] => .ok (.more { r with onlyInputs := true })
    | '-' :: '-' :: cs =>
      let name := String.ofList (cs.takeWhile (· != '='))
      match cs.dropWhile (· != '=') with
      | [] => r.long name none
      | _ :: value => r.long name (some (.ofList value))
    | '-' :: c :: cs => r.letters (c :: cs)
    | _ => r.plain arg

/-- Reads the rest of the arguments. -/
def arguments (r : Reading) : List String → Except UsageError Request
  | [] => do return .run (← r.settle).options
  | arg :: args => do
    match ← r.argument arg with
    | .more r => r.arguments args
    | .done request => return request

end Reading

/-- What a list of arguments asks for. -/
def Request.ofArguments (args : List String) : Except UsageError Request :=
  ({} : Reading).arguments args

end Tokenizer.Command
