import Parley.Generator
import Parley.Provider.Pump
import Parley.Provider.Response
import Parley.Provider.Url

/-! # The client

A generator that asks a provider on the web. What it sends depends on its settings and the
messages, and what it makes of the answer on the way in which the reply is delivered.
-/

namespace Parley.Provider

structure Client where
  apiKey : String
  /-- Ends in a slash. -/
  baseUrl : String
  /-- Milliseconds that a request may take. -/
  timeout : Nat
  model : String := "claude-haiku-4-5"
  maxTokens : Nat := 4096
  system : Option String := none
  streamCapacity : Nat := 64
  deriving DecidableEq, Repr

structure Request where
  target : String
  headers : List (String × String)
  body : Json

namespace Client

def defaultUrl : String := "https://api.anthropic.com/v1/"

def defaultTimeout : Nat := 60000

def keyVariable : String := "COLLOQUY_API_KEY"

def noKey : Error :=
  .authentication
    ("API key not provided and " ++ keyVariable ++ " environment variable not set")

def badKey : Error :=
  .authentication "API key contains invalid header characters"

/-- Whether a character may stand in a key. Control characters may not, except the tab. -/
def isKey (c : Char) : Bool :=
  c == '\t' || (0x20 ≤ c.toNat && c != '\x7f')

def slashed (url : String) : String :=
  if url.endsWith "/" then url else url ++ "/"

/-- A client with a key, or else the one of the environment. -/
def new (key environment : Option String) (url : Option String := none)
    (timeout : Option Nat := none) : Except Error Client :=
  match key <|> environment with
  | none => .error noKey
  | some apiKey =>
    if apiKey.toList.all isKey then
      .ok { apiKey, baseUrl := slashed (url.getD defaultUrl), timeout := timeout.getD defaultTimeout }
    else .error badKey

def wireMessage (m : Message) : Json :=
  .ofMembers [("role", m.role.toJson), ("content", .ofText m.text)]

def body (c : Client) (delivery : Delivery) (messages : List Message) : Json :=
  .ofMembers (
    [("model", .ofText c.model), ("max_tokens", .ofNat c.maxTokens)] ++
    (c.system.map fun s => ("system", Json.ofText s)).toList ++
    [("messages", .array (messages.map wireMessage)), ("stream", .bool (delivery = .streaming))])

def headers (c : Client) (delivery : Delivery) : List (String × String) := [
  ("accept", if delivery = .streaming then "text/event-stream" else "application/json"),
  ("anthropic-version", "2023-06-01"),
  ("content-type", "application/json"),
  ("x-api-key", Response.headerText c.apiKey)]

def url? (c : Client) : Option Url :=
  Url.parse? (c.baseUrl ++ "messages")

def badUrl : Error :=
  .httpClient "Request failed: builder error" (.foreign "builder error")

/-- The request that a call leads to; none if there is no address to send it to. -/
def request? (c : Client) (call : Call) : Option Request :=
  c.url?.map fun url =>
    { target := url.target
      headers := c.headers call.delivery
      body := c.body call.delivery call.messages }

def response? (c : Client) (a : Answer) : Except Error Response :=
  if c.url?.isSome then a.response? c.timeout else .error badUrl

def whole (c : Client) (a : Answer) : Except Error String :=
  (c.response? a).bind Response.reply

def events (c : Client) (a : Answer) : Except Error (List Item) :=
  (c.response? a).map fun r => EventStream.decode r.stream

def performance (c : Client) (a : Answer) : Performance :=
  { delay := if a = .silence then c.timeout else 0
    whole :=
      match c.whole a with
      | .ok reply => .reply reply
      | .error e => .failure e
    streamed :=
      (c.events a).map fun items =>
        { capacity := c.streamCapacity, increments := (Pump.increments items).map (0, ·) } }

end Client

end Parley.Provider
