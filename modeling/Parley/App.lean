import Parley.Config.File
import Parley.Provider.Client
import Parley.Session

/-! # The program

A run of the program: it reads its arguments and its configuration, opens a session with a
provider, and goes through the lines of its input. All that a run depends on is given beforehand,
the answers of the provider among it. What the program counts and measures on the way is registered
with a collector.
-/

namespace Parley

/-- What a collector holds, by name: counters of events, and the moments of quantities. -/
structure Collector where
  counters : List String := []
  moments : List String := []
  deriving DecidableEq, Repr

namespace Collector

def withCounters (c : Collector) (names : List String) : Collector :=
  { c with counters := c.counters ++ names }

def withMoments (c : Collector) (name : String) : Collector :=
  { c with moments := c.moments ++ [name] }

def register (c : Collector) : Collector :=
  c |>.withCounters ["colloquy.chat.turns", "colloquy.chat.streaming_turns",
      "colloquy.chat.generation_errors", "colloquy.chat.cancelled"]
    |>.withMoments "colloquy.chat.turn_duration_seconds"
    |>.withCounters ["colloquy.relay.increments", "colloquy.relay.bytes",
      "colloquy.relay.stream_errors", "colloquy.relay.hangups", "colloquy.relay.cancelled",
      "colloquy.relay.consumer_gone", "colloquy.relay.persist_errors"]
    |>.withMoments "colloquy.relay.stream_duration_seconds"
    |>.withCounters ["colloquy.history.appends", "colloquy.history.append_errors"]
    |>.withCounters ["colloquy.client.requests", "colloquy.client.request_errors"]

end Collector

/-- What a run of the program depends on, besides its arguments. -/
structure Surroundings where
  key : Option String := none
  files : String → Option (List UInt8) := fun _ => none
  input : List UInt8 := []
  showsPrompt : Bool := true
  server : String := ""
  answers : List Provider.Answer := []

structure Run where
  exitCode : Nat
  output : String := ""
  report : String := ""
  requests : List Provider.Request := []

namespace Run

def settings (c : Config) : Session.Settings :=
  { displayName := c.displayName
    assistantName := c.assistantName
    streaming := c.streaming
    indicatorInterval := c.indicatorInterval }

def client (c : Config) (key : Option String) : Except Error Provider.Client := do
  let client ← Provider.Client.new none key c.baseUrl (some (c.requestTimeout * 1000))
  return { client with
    model := c.model
    maxTokens := c.maxTokens
    system := c.systemPrompt
    streamCapacity := c.streamCapacity }

/-- The lines of an input. The first argument bounds their number. -/
def lines (t : Terminal) : Nat → List Session.Entry
  | 0 => []
  | n + 1 =>
    if t.input.isEmpty then []
    else
      let (reading, _, t) := t.readLine ""
      { reading } :: lines t n

/-- The answers to the requests of a client, as many as are asked for: those of the server, and
none any more after them. No other server answers. -/
def answers (s : Surroundings) (client : Provider.Client) (n : Nat) : List Provider.Answer :=
  let here := client.url?.map (·.authority) == some s.server
  (if here then s.answers else []) ++ List.replicate n Provider.Answer.refused

def reached (client : Provider.Client) (answers : List Provider.Answer) (calls : List Call) :
    List Provider.Request :=
  ((calls.zip answers).filter (·.2.isReached)).filterMap fun x => client.request? x.1

def greeting (c : Config) : List Drawing :=
  [.primary ("Colloquy (model: " ++ c.model ++ ")"),
    .secondary "Type /help for commands, exit to quit"]

def farewell : Drawing :=
  .primary "Goodbye!"

def written (showsPrompt : Bool) (d : Display) : List Session.Event → String
  | [] => ""
  | .prompt text :: rest => (if showsPrompt then text else "") ++ written showsPrompt d rest
  | .drawn x :: rest => (d.draw x).2 ++ written showsPrompt (d.draw x).1 rest
  | .interrupted _ :: rest => written showsPrompt d rest

def stopped (e : Error) : Run :=
  { exitCode := 1, report := e.message }

/-- A session from its greeting to its farewell. The end of the input ends it well. -/
def converse (s : Surroundings) (c : Config) (client : Provider.Client) : Run :=
  let entries := lines { showsPrompt := s.showsPrompt, input := s.input } s.input.length
  let answers := answers s client entries.length
  let service : Service :=
    { archive := { clock := default }
      options := c.options
      generator := { script := answers.map client.performance } }
  match Session.new service (settings c) entries with
  | .error e => stopped e
  | .ok session =>
    let session := session.runToEnd
    let failure :=
      match session.result? with
      | some (.error e) => if e.isInput then none else some e
      | _ => none
    let events :=
      (greeting c).map Session.Event.drawn ++ session.events ++
        if failure.isSome then [] else [.drawn farewell]
    { exitCode := if failure.isSome then 1 else 0
      output := written s.showsPrompt { colored := c.colored } events
      report := (failure.map Error.message).getD ""
      requests := reached client answers session.service.generator.calls }

def ofArguments (argv : List String) (s : Surroundings) : Run :=
  match Arguments.parse argv with
  | .error r => { exitCode := r.exitCode, report := r.message }
  | .ok (a, _) =>
    match Config.resolve s.files a with
    | .error e => stopped e
    | .ok c =>
      match client c s.key with
      | .error e => stopped e
      | .ok client => converse s c client

end Run

end Parley
