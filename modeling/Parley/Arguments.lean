import Parley.Number

/-! # Arguments

What a user asks for when the program is started. Switches come first, with one dash or two; the
first argument that is none ends them. A value follows its switch, after an equals sign or as the
next argument.
-/

namespace Parley

structure Arguments where
  config : Option String := none
  model : Option String := none
  system : Option String := none
  maxTokens : Option Nat := none
  name : Option String := none
  noStream : Bool := false
  noColor : Bool := false
  fullContext : Bool := false
  keepPartial : Bool := false
  deriving DecidableEq, Repr, Inhabited

namespace Arguments

structure Switch where
  name : String
  short : Option Char := none
  hint : Option String := none
  description : String
  deriving DecidableEq, Repr

def helpSwitch : Switch :=
  { name := "help", short := some 'h', description := "Print this help menu." }

def switches : List Switch := [
  helpSwitch,
  { name := "config", hint := some "FILE", description := "YAML configuration file" },
  { name := "model", hint := some "MODEL",
    description := "Model to use (default: claude-haiku-4-5)" },
  { name := "system", hint := some "PROMPT",
    description := "System prompt for the conversation" },
  { name := "max-tokens", hint := some "TOKENS",
    description := "Max tokens per response (default: 4096)" },
  { name := "name", hint := some "NAME", description := "Name shown in the prompt (default: You)" },
  { name := "no-stream", description := "Wait for whole replies instead of streaming" },
  { name := "no-color", description := "Disable ANSI colors/styles" },
  { name := "full-context", description := "Send the whole transcript with every turn" },
  { name := "keep-partial", description := "Keep partial replies when a stream fails" }]

/-- The switch of a name. A short name is one character. -/
def switch? (name : String) : Option Switch :=
  switches.find? fun s => s.name == name || (s.short.map Char.toString) == some name

def descriptionColumn : Nat := 24

/-- A switch in the list. Its description goes to the next line if there is no room for it. -/
def Switch.row (s : Switch) : String :=
  let short :=
    match s.short with
    | some c => "-" ++ c.toString ++ ", "
    | none => "    "
  let value :=
    match s.hint with
    | some hint => " " ++ hint
    | none => ""
  let left := "    " ++ short ++ "-" ++ s.name ++ value
  let gap :=
    if left.length < descriptionColumn then
      String.ofList (List.replicate (descriptionColumn - left.length) ' ')
    else "\n" ++ String.ofList (List.replicate descriptionColumn ' ')
  left ++ gap ++ s.description

def usage : String :=
  "colloquy-chat [OPTIONS]\n\nOptions:\n" ++ "\n".intercalate (switches.map Switch.row) ++ "\n"

inductive Refusal where
  | help
  | unknown (name : String)
  | unexpectedValue (name : String)
  | missingValue (name : String)
  | repeated (name : String)
  | notNumber (name : String) (fault : Numeral.Fault)
  deriving DecidableEq, Repr

def Refusal.message : Refusal → String
  | .help => usage
  | .unknown n => "could not parse command line: Unrecognized option: '" ++ n ++ "'"
  | .unexpectedValue n =>
    "could not parse command line: Option '" ++ n ++ "' does not take an argument"
  | .missingValue n => "could not parse command line: Argument to option '" ++ n ++ "' missing"
  | .repeated n => "could not parse command line: Option '" ++ n ++ "' given more than once"
  | .notNumber n fault => "field --" ++ n ++ " is unparseable: " ++ fault.message

def Refusal.exitCode : Refusal → Nat
  | .help => 1
  | .notNumber .. => 101
  | _ => 64

abbrev Given := String × Option String

/-- The name of a switch and the value that is written with it, without the dashes. A lone dash is
no switch. -/
def written? (argument : String) : Option (String × Option String) :=
  let split (cs : List Char) : String × Option String :=
    let name := String.ofList (cs.takeWhile (· != '='))
    match cs.dropWhile (· != '=') with
    | [] => (name, none)
    | _ :: value => (name, some (String.ofList value))
  match argument.toList with
  | '-' :: '-' :: rest => some (split rest)
  | '-' :: c :: rest => some (split (c :: rest))
  | _ => none

def given : List String → Except Refusal (List Given × List String)
  | [] => .ok ([], [])
  | argument :: rest =>
    match written? argument with
    | none => .ok ([], argument :: rest)
    | some (name, value) =>
      if argument = "--" then .ok ([], rest)
      else
        match switch? name with
        | none => .error (.unknown name)
        | some s =>
          match s.hint, value, rest with
          | none, some _, _ => .error (.unexpectedValue name)
          | none, none, rest => do
            let (gs, free) ← given rest
            return ((s.name, none) :: gs, free)
          | some _, some v, rest => do
            let (gs, free) ← given rest
            return ((s.name, some v) :: gs, free)
          | some _, none, [] => .error (.missingValue name)
          | some _, none, v :: rest => do
            let (gs, free) ← given rest
            return ((s.name, some v) :: gs, free)

def repeated? (gs : List Given) : Option String :=
  (switches.find? fun s => 1 < gs.countP (·.1 == s.name)).map Switch.name

def has (gs : List Given) (name : String) : Bool :=
  gs.any (·.1 == name)

def valueOf? (gs : List Given) (name : String) : Option String :=
  (gs.find? (·.1 == name)).bind (·.2)

def numberOf? (gs : List Given) (name : String) : Except Refusal (Option Nat) :=
  match valueOf? gs name with
  | none => .ok none
  | some text =>
    match Numeral.read maxWord32 text with
    | .ok n => .ok (some n)
    | .error fault => .error (.notNumber name fault)

/-- What is asked for by some arguments, and the arguments after the switches. -/
def parse (argv : List String) : Except Refusal (Arguments × List String) := do
  let (gs, free) ← given argv
  if let some name := repeated? gs then throw (.repeated name)
  if has gs helpSwitch.name then throw .help
  let maxTokens ← numberOf? gs "max-tokens"
  return ({
    config := valueOf? gs "config"
    model := valueOf? gs "model"
    system := valueOf? gs "system"
    maxTokens
    name := valueOf? gs "name"
    noStream := has gs "no-stream"
    noColor := has gs "no-color"
    fullContext := has gs "full-context"
    keepPartial := has gs "keep-partial" }, free)

/-- Arguments that ask for the same. -/
def canonical (a : Arguments) : List String :=
  let value (name : String) (v : Option String) : List String :=
    match v with
    | some text => ["--" ++ name, text]
    | none => []
  let flag (name : String) (b : Bool) : List String := if b then ["--" ++ name] else []
  value "config" a.config ++ value "model" a.model ++ value "system" a.system ++
    value "max-tokens" (a.maxTokens.map toString) ++ value "name" a.name ++
    flag "no-stream" a.noStream ++ flag "no-color" a.noColor ++
    flag "full-context" a.fullContext ++ flag "keep-partial" a.keepPartial

end Arguments

end Parley
