import Parley.Command
import Parley.Display
import Parley.Folder
import Parley.Indicator
import Parley.LineSource
import Parley.Json.Writer
import Parley.Service

/-! # Sessions

A session reads lines and acts on them until the user leaves, the input ends or the session is
cancelled. A line that is no command is a turn: while it is under way an indicator turns and an
interrupt cancels it. A turn that fails is reported, and the session goes on.

Everything that can happen is a move: a step of the session itself, of the indicator, of a part of
a turn, a signal from outside, or time that passes. Moves may come in any order; `run` takes them
in one order that does as much as possible before time passes.
-/

namespace Parley

namespace Session

/-- Something that happens while a line is read, before it arrives. -/
inductive Interlude where
  | deleteSession (id : SessionId)
  | interrupt
  | cancel
  deriving DecidableEq

/-- A line to come, or an error in its place, with what happens before it arrives. -/
structure Entry where
  interludes : List Interlude := []
  reading : Except Error Reading

inductive Event where
  | prompt (text : String)
  | drawn (d : Drawing)
  /-- An interrupt at the prompt, and whether it found a turn. -/
  | interrupted (found : Bool)
  deriving DecidableEq, Repr

/-- How a turn came out, before its end is shown. -/
inductive Ending where
  | called (reply : Except Error String)
  /-- A stream has ended; whether any of it was shown, and the failure that came with it. -/
  | streamed (shown : Bool) (failure : Option Error)

/-- How far the session has come with a turn. -/
inductive Phase where
  | calling
  | receiving (shown : Bool) (failure : Option Error)
  | closing (ending : Ending)

inductive Stage where
  | awaiting
  | inTurn (k : Nat) (phase : Phase)
  | over (result : Except Error Unit)

structure Settings where
  displayName : String := "You"
  assistantName : String := "Assistant"
  streaming : Bool := true
  indicatorInterval : Nat := 100
  deriving DecidableEq, Repr

inductive Move where
  | loop
  | indicator
  | part (k : Nat) (part : Turn.Part)
  | signal (s : Signal)
  | alarm
  | wait (moment : Nat)
  deriving DecidableEq, Repr

end Session

structure Session where
  service : Service
  id : SessionId
  settings : Session.Settings := {}
  streaming : Bool
  input : List Session.Entry
  cancelled : Bool := false
  interrupter : Interrupter Nat := {}
  indicator : Option Indicator := none
  folder : Folder := {}
  turns : Nat := 0
  stage : Session.Stage := .awaiting
  events : List Session.Event := []

namespace Session

def new (service : Service) (settings : Settings) (input : List Entry)
    (cancelled : Bool := false) : Except Error Session :=
  match service.archive.create with
  | (.error e, _) => .error e
  | (.ok t, archive) =>
    .ok { service := { service with archive }, id := t.id, settings
          streaming := settings.streaming, input, cancelled }

def draw (s : Session) (ds : List Drawing) : Session :=
  { s with events := s.events ++ ds.map .drawn }

def cancelAll (s : Session) : Session :=
  { s with
    cancelled := true
    service :=
      { s.service with turns := s.service.turns.map fun t => { t with cancelled := true } } }

/-- Interrupts the turn under way. The answer tells whether there was one. -/
def interrupt (s : Session) : Bool × Session :=
  match s.interrupter.interrupt with
  | (some k, interrupter) => (true, { s with interrupter, service := s.service.cancel k })
  | (none, interrupter) => (false, { s with interrupter })

def signal (s : Session) : Signal → Session
  | .interrupt => s.interrupt.2
  | .cancel => s.cancelAll

def transcript (s : Session) : Except Error Transcript × Session :=
  let (t, archive) := s.service.archive.get s.id
  (t, { s with service := { s.service with archive } })

def report (s : Session) (e : Error) : Session :=
  s.draw [.error e.message]

def historyLine (settings : Settings) (m : Message) : String :=
  let speaker :=
    match m.role with
    | .user => settings.displayName
    | .assistant => settings.assistantName
  "[" ++ m.generatedAt.clock ++ "] " ++ speaker ++ ": " ++ m.text

def showHistory (s : Session) : Session :=
  match s.transcript with
  | (.error e, s) => s.report e
  | (.ok t, s) =>
    if t.messages.isEmpty then s.draw [.info "No messages yet."]
    else s.draw (t.messages.map fun m => .secondary (historyLine s.settings m))

def modeName (streaming : Bool) : String :=
  if streaming then "streaming" else "blocking"

def showStats (s : Session) : Session :=
  match s.transcript with
  | (.error e, s) => s.report e
  | (.ok t, s) =>
    s.draw [.info ("Session: " ++ s.id.short),
      .info ("Messages: " ++ toString t.messages.length), .info ("Turns: " ++ toString s.turns),
      .info ("Mode: " ++ modeName s.streaming)]

def save (s : Session) (path : String) : Session :=
  match s.transcript with
  | (.error e, s) => s.report e
  | (.ok t, s) =>
    match s.folder.save path t.toJson.pretty with
    | .error e => s.report e
    | .ok folder => { s with folder }.draw [.success ("Transcript saved to " ++ path)]

def execute (s : Session) : Command → Session
  | .exit => { s with stage := .over (.ok ()) }
  | .clear => s.draw [.clearScreen]
  | .help => s.draw (Command.helpLines.map .info)
  | .history => s.showHistory
  | .save path => s.save path
  | .stream on =>
    { s with streaming := on }.draw [.info (if on then "Streaming enabled." else "Streaming disabled.")]
  | .stats => s.showStats
  | .invalid message => s.draw [.error message]

def beginTurn (s : Session) (text : String) : Session :=
  let k := s.service.turns.length
  let delivery : Delivery := if s.streaming then .streaming else .blocking
  { s with
    turns := s.turns + 1
    service := s.service.ask s.id delivery text s.cancelled
    interrupter := s.interrupter.arm k
    indicator := some { interval := s.settings.indicatorInterval }
    stage := .inTurn k .calling }

def wholeReply (s : Session) (reply : String) : List Drawing :=
  [.beginReply s.settings.assistantName, .replyText reply, .finishReply]

/-- The drawings that report a turn that failed. A reply that is lost to the history is shown. -/
def failureDrawings (s : Session) (e : Error) : List Drawing :=
  match e.unsavedReply? with
  | some reply => s.wholeReply reply ++ [.warning "this reply could not be saved to the history"]
  | none => if e.isCancelled then [.warning "Cancelled."] else [.error e.message]

def close (s : Session) (k : Nat) (ending : Ending) : Session :=
  { s with
    indicator := s.indicator.map Indicator.release
    stage := .inTurn k (.closing ending) }

/-- How a turn came out in the end. -/
def outcome (s : Session) (k : Nat) : Ending → Except Error Unit
  | .called (.ok _) => .ok ()
  | .called (.error e) => .error e
  | .streamed _ (some e) => .error e
  | .streamed _ none =>
    match s.service.turns[k]? with
    | some { cancelled := true, .. } => .error Service.turnCancelled
    | _ => .ok ()

def endingDrawings (s : Session) : Ending → List Drawing
  | .called (.ok reply) => s.wholeReply reply
  | .called (.error _) => []
  | .streamed shown _ => if shown then [.finishReply] else []

def conclude (s : Session) (k : Nat) (ending : Ending) : Session :=
  let failure :=
    match s.outcome k ending with
    | .ok () => []
    | .error e => s.failureDrawings e
  { s with
    interrupter := s.interrupter.disarm
    indicator := none
    stage := .awaiting }.draw (s.endingDrawings ending ++ failure)

/-- Receives an increment of a stream. Empty ones are not shown. -/
def receive (s : Session) (k : Nat) (shown : Bool) (failure : Option Error) (i : Increment) :
    Session :=
  match i.error with
  | some e => { s with stage := .inTurn k (.receiving shown (some e)) }
  | none =>
    if i.text = "" then { s with stage := .inTurn k (.receiving shown failure) }
    else
      { s with stage := .inTurn k (.receiving true failure) }.draw
        ((if shown then [] else [Drawing.beginReply s.settings.assistantName]) ++
          [Drawing.replyText i.text])

def turnStep (s : Session) (k : Nat) : Phase → Option Session
  | .calling =>
    match (s.service.turns[k]?).map Turn.stage with
    | some (.answered reply) => some (s.close k (.called reply))
    | some (.streaming ..) => some { s with stage := .inTurn k (.receiving false none) }
    | _ => none
  | .receiving shown failure =>
    match s.service.relay? k with
    | none => none
    | some relay =>
      match relay.sink.receive with
      | .item i sink =>
        some ({ s with service := s.service.updateSink k fun _ => sink }.receive k shown failure i)
      | .empty => none
      | .closed => some (s.close k (.streamed shown failure))
  | .closing ending =>
    match s.indicator with
    | some i => if i.hasEnded then some (s.conclude k ending) else none
    | none => some (s.conclude k ending)

def prompt (s : Session) : String :=
  s.settings.displayName ++ "> "

/-- What happens while a line is read. -/
def interlude (s : Session) : Interlude → Session
  | .deleteSession id =>
    { s with service := { s.service with archive := (s.service.archive.delete id).2 } }
  | .interrupt =>
    let (found, s) := s.interrupt
    { s with events := s.events ++ [Event.interrupted found] }
  | .cancel => s.cancelAll

def dispatch (s : Session) (line : String) : Session :=
  let text := Text.trimmed line
  if text = "" then s
  else
    match Command.parse? text with
    | some command => s.execute command
    | none => s.beginTurn text

/-- Acts on a reading. -/
def take (s : Session) : Except Error Reading → Session
  | .error e => { s with stage := .over (.error (Reading.asInputError e)) }
  | .ok .interrupted => s.draw [.secondary "(type exit or press Ctrl+D to quit)"]
  | .ok (.line line) => s.dispatch line

/-- Reads a line and acts on it. After the last line the input has ended. -/
def readLine (s : Session) : Session :=
  let s := { s with events := s.events ++ [Event.prompt s.prompt] }
  match s.input with
  | [] => s.take (.error Reading.endOfInput)
  | e :: input => (e.interludes.foldl interlude { s with input }).take e.reading

/-- One step of the session itself; none if it has to wait or is over. -/
def loopStep (s : Session) : Option Session :=
  match s.stage with
  | .over _ => none
  | .awaiting => if s.cancelled then some { s with stage := .over (.ok ()) } else some s.readLine
  | .inTurn k phase => s.turnStep k phase

def turnIsCancelled (s : Session) : Bool :=
  match s.stage with
  | .inTurn k _ => ((s.service.turns[k]?).map Turn.cancelled).getD false
  | _ => false

def indicatorStep (s : Session) : Option Session :=
  match s.indicator with
  | none => none
  | some i =>
    match i.step s.service.now s.turnIsCancelled with
    | none => none
    | some (i, drawn) => some ({ s with indicator := some i }.draw drawn)

/-- Gives the first signal whose time has come. -/
def alarmStep (s : Session) : Option Session :=
  match s.service.alarms.find? (·.1 ≤ s.service.now) with
  | none => none
  | some a =>
    some ({ s with service := { s.service with alarms := s.service.alarms.erase a } }.signal a.2)

/-- Makes a move; none if it cannot be made now. -/
def step (s : Session) : Move → Option Session
  | .loop => s.loopStep
  | .indicator => s.indicatorStep
  | .part k part => (s.service.step k part).map fun service => { s with service }
  | .signal x => some (s.signal x)
  | .alarm => s.alarmStep
  | .wait moment =>
    if s.service.now < moment then some { s with service := { s.service with now := moment } }
    else none

/-- The moves that `run` looks at, in its order: the session and its call, the indicator, what
carries a stream, and the signals. -/
def moves (s : Session) : List Move :=
  let turns := List.range s.service.turns.length
  .loop :: (turns.map (Move.part · .call) ++ .indicator ::
    (turns.flatMap (fun k => [Move.part k .feed, Move.part k .relay]) ++ [.alarm]))

def timers (s : Session) : List Nat :=
  s.service.turns.flatMap Service.timers ++ s.service.alarms.map (·.1) ++
    match s.indicator with
    | some { stage := .ticking due, .. } => [due]
    | _ => []

def nextTimer? (s : Session) : Option Nat :=
  (s.timers.filter (s.service.now < ·)).min?

/-- The session after the first move that can be made without waiting. -/
def next? (s : Session) : Option Session :=
  s.moves.findSome? s.step

/-- The session after its next move; it waits if there is nothing else to do and it is not over. -/
def advance? (s : Session) : Option Session :=
  match s.next? with
  | some s => some s
  | none =>
    match s.stage with
    | .over _ => none
    | _ =>
      match s.nextTimer? with
      | some moment => s.step (.wait moment)
      | none => none

/-- Makes at most `n` moves. -/
def run : Nat → Session → Session
  | 0, s => s
  | n + 1, s =>
    match s.advance? with
    | some s => run n s
    | none => s

/-- The time that a performance takes from its call, with the signals that it gives. -/
def span (p : Performance) : Nat :=
  let stream :=
    match p.streamed with
    | .ok plan => (plan.increments.map (·.1)).foldr (· + ·) 0 + plan.hangUpAfter
    | .error _ => 0
  p.delay + stream + (p.signals.map (·.1)).foldr (· + ·) 0

/-- A bound on the moves of a session that nothing disturbs: a few for each line, a few for each
step of a turn, and a frame with a wait for each millisecond. -/
def movesLeft (s : Session) : Nat :=
  16 * (s.input.length + 1) + 4 * s.service.work +
    4 * (s.service.generator.script.map span).foldr (· + ·) 0

/-- Runs the session until it is over, or waits for something that will not happen. -/
def runToEnd (s : Session) : Session :=
  run s.movesLeft s

def result? (s : Session) : Option (Except Error Unit) :=
  match s.stage with
  | .over result => some result
  | _ => none

def drawings (s : Session) : List Drawing :=
  s.events.filterMap fun
    | .drawn d => some d
    | _ => none

end Session

end Parley
