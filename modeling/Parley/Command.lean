import Parley.Text.Blank
import Parley.Text.Lowercase

/-! # Commands

What a line at the prompt asks for. The bare words `exit` and `clear` and lines that begin with
a slash steer the chat; every other line is a message for the assistant.
-/

namespace Parley

open Text

/-- A request to the chat itself, never sent to the assistant. -/
inductive Command where
  | exit
  | clear
  | help
  | history
  | save (path : String)
  | stream (on : Bool)
  | stats
  | invalid (message : String)
  deriving DecidableEq, Repr

namespace Command

def switch? (word : List Char) : Option Bool :=
  let w := String.ofList (lowercase word)
  if w = "on" ∨ w = "true" ∨ w = "yes" then some true
  else if w = "off" ∨ w = "false" ∨ w = "no" then some false
  else none

/-- Splits a text at its first space, which belongs to neither part. -/
def splitAtSpace (cs : List Char) : List Char × Option (List Char) :=
  match cs.dropWhile (· != ' ') with
  | [] => (cs, none)
  | _ :: rest => (cs.takeWhile (· != ' '), some rest)

/-- The argument of a command: the trimmed text after its word, unless that is empty. -/
def argument? (rest : Option (List Char)) : Option (List Char) :=
  (rest.map trim).filter (!·.isEmpty)

def ofWord (word : String) (argument : Option (List Char)) : Command :=
  match word with
  | "quit" | "exit" | "q" => .exit
  | "clear" => .clear
  | "help" | "?" => .help
  | "history" => .history
  | "stats" | "status" => .stats
  | "save" =>
    match argument with
    | some path => .save (String.ofList path)
    | none => .invalid "/save requires a file path"
  | "stream" =>
    match argument.bind switch? with
    | some on => .stream on
    | none => .invalid "/stream expects 'on' or 'off'"
  | _ => .invalid ("Unknown command: /" ++ word)

def ofTrimmed? (line : List Char) : Option Command :=
  if eqIgnoringAsciiCase line "exit".toList then some .exit
  else if eqIgnoringAsciiCase line "clear".toList then some .clear
  else
    match line with
    | '/' :: rest =>
      let parts := splitAtSpace rest
      some (ofWord (String.ofList (lowercase parts.1)) (argument? parts.2))
    | _ => none

/-- The command in a line, or `none` for a message. Blanks around the line do not matter. -/
def parse? (line : String) : Option Command :=
  ofTrimmed? (trim line.toList)

def helpLines : List String := [
  "Available commands:",
  "  exit, /quit            Exit the chat",
  "  clear, /clear          Clear the screen",
  "  /history               Show this session's messages",
  "  /save <file>           Save the transcript as JSON",
  "  /stream on|off         Stream replies or wait for them whole",
  "  /stats                 Show session statistics",
  "  /help                  Show this help message",
  "Press Ctrl+C while a reply is generating to cancel it."]

def helpText : String :=
  "\n".intercalate helpLines

end Command

end Parley
