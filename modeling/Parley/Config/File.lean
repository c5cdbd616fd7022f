import Parley.Arguments
import Parley.Config
import Parley.Text.Blank
import Parley.Yaml.Meaning

/-! # Configuration files and layers

A configuration file is a mapping in YAML. Every setting may be missing or null; a name that is no
setting, or a setting that stands twice, makes the file invalid. What the user asks for comes before
what the file says, and that before what holds by default.
-/

namespace Parley.Config

structure File where
  displayName : Option String := none
  assistantName : Option String := none
  streaming : Option Bool := none
  model : Option String := none
  systemPrompt : Option String := none
  maxTokens : Option Nat := none
  color : Option Bool := none
  context : Option ContextPolicy := none
  partialStream : Option PartialPolicy := none
  streamCapacity : Option Nat := none
  indicatorInterval : Option Nat := none
  baseUrl : Option String := none
  requestTimeout : Option Nat := none
  deriving DecidableEq, Repr, Inhabited

namespace File

def names : List String := [
  "display_name", "assistant_name", "streaming", "model", "system_prompt", "max_tokens", "color",
  "context_policy", "partial_stream_policy", "stream_capacity", "indicator_interval_ms",
  "base_url", "request_timeout_secs"]

def contextNames : List (String × ContextPolicy) :=
  [("current_turn", .currentTurn), ("full_transcript", .fullTranscript)]

def partialNames : List (String × PartialPolicy) :=
  [("discard", .discard), ("persist", .persist)]

def scalar? (root node : Yaml.Node) : Option Yaml.Scalar :=
  match root.resolve node with
  | some (.scalar _ s) => some s
  | _ => none

def entries? (root : Yaml.Node) : Option (List (String × Yaml.Node)) :=
  match root with
  | .mapping _ _ entries => do
    let named ← entries.mapM fun e => (scalar? root e.1).map fun key => (key.text, e.2)
    if named.all fun e => names.contains e.1 then some named else none
  | .scalar _ s => if s.text.isEmpty && s.style == .plain then some [] else none
  | _ => none

/-- The value of a setting: `some none` if it is missing or null, no answer if it has the wrong
shape or stands twice. -/
def value? {α : Type} (root : Yaml.Node) (entries : List (String × Yaml.Node))
    (read : Yaml.Scalar → Option α) (name : String) : Option (Option α) :=
  match entries.filter (·.1 == name) with
  | [] => some none
  | [e] => do
    let s ← scalar? root e.2
    if ← s.isMissing? then return none
    return some (← read s)
  | _ => none

def ofNode? (root : Yaml.Node) : Option File := do
  let entries ← entries? root
  let text (name : String) : Option (Option String) :=
    value? root entries (fun s => some s.text) name
  let bool (name : String) : Option (Option Bool) := value? root entries Yaml.Scalar.bool? name
  let nat (bound : Nat) (name : String) : Option (Option Nat) :=
    value? root entries (Yaml.Scalar.nat? bound) name
  return {
    displayName := ← text "display_name"
    assistantName := ← text "assistant_name"
    streaming := ← bool "streaming"
    model := ← text "model"
    systemPrompt := ← text "system_prompt"
    maxTokens := ← nat maxWord32 "max_tokens"
    color := ← bool "color"
    context := ← value? root entries (Yaml.Scalar.oneOf? contextNames) "context_policy"
    partialStream :=
      ← value? root entries (Yaml.Scalar.oneOf? partialNames) "partial_stream_policy"
    streamCapacity := ← nat maxWord64 "stream_capacity"
    indicatorInterval := ← nat maxWord64 "indicator_interval_ms"
    baseUrl := ← text "base_url"
    requestTimeout := ← nat maxWord64 "request_timeout_secs" }

def ofText? (text : List Char) : Option File := do
  match ← Yaml.Node.document? text with
  | some root => ofNode? root
  | none => return {}

def malformed : Error :=
  .config "invalid configuration: malformed document" none

/-- Reads the settings of a text. A blank text has none. -/
def parse (text : String) : Except Error File :=
  if (Text.trim text.toList).isEmpty then .ok {}
  else
    match ofText? text.toList with
    | some file => .ok file
    | none => .error malformed

/-- A configuration with the settings of a file in place of its own. -/
def layer (file : File) (c : Config) : Config :=
  { displayName := file.displayName.getD c.displayName
    assistantName := file.assistantName.getD c.assistantName
    streaming := file.streaming.getD c.streaming
    model := file.model.getD c.model
    systemPrompt := file.systemPrompt <|> c.systemPrompt
    maxTokens := file.maxTokens.getD c.maxTokens
    colored := file.color.getD c.colored
    context := file.context.getD c.context
    partialStream := file.partialStream.getD c.partialStream
    streamCapacity := file.streamCapacity.getD c.streamCapacity
    indicatorInterval := file.indicatorInterval.getD c.indicatorInterval
    baseUrl := file.baseUrl <|> c.baseUrl
    requestTimeout := file.requestTimeout.getD c.requestTimeout }

end File

end Parley.Config

namespace Parley

def Arguments.layer (a : Arguments) (c : Config) : Config :=
  { c with
    model := a.model.getD c.model
    systemPrompt := a.system <|> c.systemPrompt
    maxTokens := a.maxTokens.getD c.maxTokens
    displayName := a.name.getD c.displayName
    streaming := c.streaming && !a.noStream
    colored := c.colored && !a.noColor
    context := if a.fullContext then .fullTranscript else c.context
    partialStream := if a.keepPartial then .persist else c.partialStream }

namespace Config

def unreadable (path : String) : Error :=
  .io ("could not read " ++ path) (.foreign "no readable text")

def File.load (files : String → Option (List UInt8)) (path : String) : Except Error File :=
  match (files path).map Utf8.decode with
  | some (.ok text) => File.parse (String.ofList text)
  | _ => .error (unreadable path)

/-- The configuration file that the user asks for; one without settings if there is none. -/
def File.asked (files : String → Option (List UInt8)) (a : Arguments) : Except Error File :=
  match a.config with
  | some path => File.load files path
  | none => .ok {}

/-- The configuration of a chat. `files` gives the bytes of the files that can be read. -/
def resolve (files : String → Option (List UInt8)) (a : Arguments) : Except Error Config := do
  let file ← File.asked files a
  let c ← (file.layer {}).validate
  (a.layer c).validate

end Config

end Parley
