import Parley.Error
import Parley.Json.Reader
import Parley.Text.Blank

/-! # Events

What a provider sends while it generates a reply. An event arrives as a frame: lines that name
the event and carry its data, which is JSON.
-/

namespace Parley.Provider

structure ErrorDetail where
  kind : Option String
  message : Option String
  deriving DecidableEq, Repr

/-- Reads an error detail. Both fields may be null, and missing from an object. -/
def ErrorDetail.ofJson? (j : Json) : Option ErrorDetail := do
  match ← j.record? [{ name := "type" }, { name := "message" }] with
  | [kind, message] =>
    return { kind := ← Json.optional? Json.text? kind
             message := ← Json.optional? Json.text? message }
  | _ => none

inductive Event where
  | ping
  | messageStart
  | textDelta (text : String)
  | messageDelta (stopReason : Option String)
  | messageStop
  | error (kind : Option String) (message : String)
  | other (name : String)
  deriving DecidableEq, Repr

structure Delta where
  kind : Option String
  text : Option String
  stopReason : Option String
  deriving DecidableEq, Repr

namespace Delta

/-- Reads a change. Every field may be missing or null. -/
def ofJson? (j : Json) : Option Delta := do
  match ← j.record? [{ name := "type", mayTrail := true }, { name := "text", mayTrail := true },
      { name := "stop_reason", mayTrail := true }] with
  | [kind, text, stopReason] =>
    return { kind := ← Json.optional? Json.text? kind
             text := ← Json.optional? Json.text? text
             stopReason := ← Json.optional? Json.text? stopReason }
  | _ => none

def ofData? (data : List Char) : Option Delta := do
  match ← (← Json.ofSymbols? (data.map some)).record? [{ name := "delta" }] with
  | [delta] => Json.required? ofJson? delta
  | _ => none

def contentEvent (d : Delta) : Event :=
  match d.kind, d.text with
  | some "text_delta", some text => .textDelta text
  | kind, _ => .other ("content_block_delta:" ++ kind.getD "unknown")

end Delta

namespace Event

def detail? (data : List Char) : Option ErrorDetail := do
  match ← (← Json.ofSymbols? (data.map some)).record? [{ name := "error" }] with
  | [detail] => Json.required? ErrorDetail.ofJson? detail
  | _ => none

/-- The event of a name and its data. Data that describe no error are the message themselves. -/
def ofFields (name data : List Char) : Except Error Event :=
  match String.ofList name with
  | "ping" => .ok .ping
  | "message_start" => .ok .messageStart
  | "message_stop" => .ok .messageStop
  | "content_block_delta" =>
    match Delta.ofData? data with
    | some d => .ok d.contentEvent
    | none => .error .malformedJson
  | "message_delta" =>
    match Delta.ofData? data with
    | some d => .ok (.messageDelta d.stopReason)
    | none => .error .malformedJson
  | "error" =>
    match detail? data with
    | some d => .ok (.error d.kind (d.message.getD "provider reported an error"))
    | none => .ok (.error none (String.ofList data))
  | unknown => .ok (Event.other unknown)

end Event

/-- The lines of a text. A carriage return at the end of a line stays, which does no harm: values
are trimmed. -/
def lines : List Char → List (List Char)
  | [] => [[]]
  | '\n' :: rest => [] :: lines rest
  | c :: rest =>
    match lines rest with
    | [] => [[c]]
    | l :: ls => (c :: l) :: ls

def value? (name : String) (line : List Char) : Option (List Char) :=
  let mark := name.toList ++ [':']
  if mark.isPrefixOf line then some (Text.trim (line.drop mark.length)) else none

/-- The name and the data of a frame, as far as they are given. The last of several counts. -/
def fields (frame : List Char) : Option (List Char) × Option (List Char) :=
  (lines frame).foldl
    (fun found line =>
      match value? "event" line with
      | some v => (some v, found.2)
      | none =>
        match value? "data" line with
        | some v => (found.1, some v)
        | none => found)
    (none, none)

/-- The event of a frame. A frame needs a name and data. -/
def Event.ofFrame (frame : List Char) : Except Error Event :=
  match fields frame with
  | (some name, some data) => ofFields name data
  | _ => .error (.serialization ("Malformed SSE event: '" ++ String.ofList frame ++ "'") .none)

end Parley.Provider
