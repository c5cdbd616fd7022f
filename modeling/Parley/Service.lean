import Parley.Generator
import Parley.Relay

/-! # The chat service

A turn records what the user said, has a reply generated, and records the reply. Turns of any
number of sessions run side by side, each in three parts: the call, which is the turn itself until
its reply or its stream is there; the feed, with which the generator sends a stream; and the relay.
Each part moves in single steps, in any order.
-/

namespace Parley

/-- Which messages the generator sees. -/
inductive ContextPolicy where
  | currentTurn
  | fullTranscript
  deriving DecidableEq, Repr, Inhabited

structure Options where
  context : ContextPolicy := .currentTurn
  partialStream : PartialPolicy := .discard
  streamCapacity : Nat := 64
  deriving DecidableEq, Repr, Inhabited

namespace Turn

inductive Stage where
  | asked (text : String)
  | generating (p : Performance) (due : Nat)
  | replied (answer : Except Error String)
  | answered (reply : Except Error String)
  | streaming (feed : Feed) (relay : Relay)

/-- A part of a turn that can move on its own. -/
inductive Part where
  | call
  | feed
  | relay
  deriving DecidableEq, Repr

end Turn

structure Turn where
  session : SessionId
  delivery : Delivery
  cancelled : Bool := false
  stage : Turn.Stage

/-- A service with its turns, in the order of their beginning. -/
structure Service where
  archive : Archive
  options : Options := {}
  generator : Generator := {}
  turns : List Turn := []
  now : Nat := 0
  alarms : List (Nat × Signal) := []

namespace Service

def ask (s : Service) (session : SessionId) (delivery : Delivery) (text : String)
    (cancelled : Bool := false) : Service :=
  { s with turns := s.turns ++ [{ session, delivery, cancelled, stage := .asked text }] }

/-- The error of a turn that is cancelled after its reply was generated. -/
def turnCancelled : Error :=
  .cancelled "turn cancelled"

/-- How a turn reports an error of the generator. -/
def wrapGeneration (e : Error) : Error :=
  if e.isCancelled || e.isGeneration then e else .generation "generation failed" (.error e)

/-- Records what the user said. The answer is what the generator will see. -/
def recordUser (s : Service) (session : SessionId) (text : String) :
    Except Error (List Message) × Service :=
  match s.archive.append session .user text with
  | (.error e, archive) =>
    (.error (.historyWrite "could not record user message" none (.error e)), { s with archive })
  | (.ok m, archive) =>
    match s.options.context with
    | .currentTurn => (.ok [m], { s with archive })
    | .fullTranscript =>
      match archive.get session with
      | (.error e, archive) =>
        (.error (.historyWrite "could not read transcript" none (.error e)), { s with archive })
      | (.ok t, archive) => (.ok t.messages, { s with archive })

def recordReply (s : Service) (session : SessionId) (reply : String) :
    Except Error String × Service :=
  match s.archive.append session .assistant reply with
  | (.ok _, archive) => (.ok reply, { s with archive })
  | (.error e, archive) =>
    (.error (.historyWrite "reply generated but not recorded" (some reply) (.error e)),
      { s with archive })

/-- The call takes up a turn: it records what the user said and calls the generator. -/
def begin (s : Service) (t : Turn) (text : String) : Turn × Service :=
  match s.recordUser t.session text with
  | (.error e, s) => ({ t with stage := .answered (.error e) }, s)
  | (.ok messages, s) =>
    let (p, generator) := s.generator.call t.delivery messages
    ({ t with stage := .generating p (s.now + p.delay) },
      { s with generator, alarms := s.alarms ++ p.signals.map fun x => (s.now + x.1, x.2) })

def takeReply (s : Service) (t : Turn) : Except Error String → Turn × Service
  | .error e => ({ t with stage := .answered (.error (wrapGeneration e)) }, s)
  | .ok reply =>
    if t.cancelled then ({ t with stage := .answered (.error turnCancelled) }, s)
    else
      let (result, s) := s.recordReply t.session reply
      ({ t with stage := .answered result }, s)

/-- The relay of a stream that begins. -/
def relayFor (s : Service) (t : Turn) (p : StreamPlan) : Relay :=
  .between t.session s.options.partialStream (.ofCapacity p.capacity)
    (.ofCapacity s.options.streamCapacity)

def takeStream (s : Service) (t : Turn) : Except Error StreamPlan → Turn
  | .error e => { t with stage := .answered (.error (wrapGeneration e)) }
  | .ok plan => { t with stage := .streaming (.start plan s.now) (s.relayFor t plan) }

def callStep (s : Service) (t : Turn) : Option (Turn × Service) :=
  match t.stage with
  | .asked text => some (s.begin t text)
  | .generating p due =>
    match t.delivery with
    | .blocking =>
      (p.reply? due s.now t.cancelled).map fun answer => ({ t with stage := .replied answer }, s)
    | .streaming => (p.stream? due s.now t.cancelled).map fun answer => (s.takeStream t answer, s)
  | .replied answer => some (s.takeReply t answer)
  | .answered _ | .streaming .. => none

/-- One step of the feed: it sends the next increment when its time has come and there is room, and
leaves after the last one, or when nobody listens. -/
def feedStep (s : Service) (t : Turn) (feed : Feed) (relay : Relay) : Option Turn :=
  if !relay.source.senderOpen || s.now < feed.due then none
  else
    match feed.increments with
    | (_, i) :: rest =>
      match relay.source.send i with
      | .sent source =>
        some { t with
          stage := .streaming
            { feed with increments := rest, due := s.now + Feed.pause rest feed.hangUpAfter }
            { relay with source } }
      | .closed =>
        some { t with stage := .streaming feed { relay with source := relay.source.closeSender } }
      | .full => none
    | [] =>
      if feed.lingers && !t.cancelled then none
      else some { t with stage := .streaming feed { relay with source := relay.source.closeSender } }

/-- One step of a part of a turn; none if it has to wait. -/
def turnStep (s : Service) (t : Turn) : Turn.Part → Option (Turn × Service)
  | .call => s.callStep t
  | .feed =>
    match t.stage with
    | .streaming feed relay => (s.feedStep t feed relay).map fun t => (t, s)
    | _ => none
  | .relay =>
    match t.stage with
    | .streaming feed relay =>
      match relay.step t.cancelled s.archive with
      | some (relay, archive) =>
        some ({ t with stage := .streaming feed relay }, { s with archive })
      | none => none
    | _ => none

/-- One step of a part of the turn with a number; none if there is no such turn or it has to
wait. -/
def step (s : Service) (k : Nat) (part : Turn.Part) : Option Service :=
  match s.turns[k]? with
  | none => none
  | some t =>
    match s.turnStep t part with
    | none => none
    | some (t, s) => some { s with turns := s.turns.set k t }

def update (s : Service) (k : Nat) (f : Turn → Turn) : Service :=
  { s with turns := s.turns.modify k f }

def cancel (s : Service) (k : Nat) : Service :=
  s.update k fun t => { t with cancelled := true }

def updateSink (s : Service) (k : Nat) (f : Channel Increment → Channel Increment) : Service :=
  s.update k fun t =>
    match t.stage with
    | .streaming feed relay => { t with stage := .streaming feed { relay with sink := f relay.sink } }
    | _ => t

def relay? (s : Service) (k : Nat) : Option Relay :=
  match s.turns[k]? with
  | some { stage := .streaming _ relay, .. } => some relay
  | _ => none

def parts : List Turn.Part := [.call, .feed, .relay]

def next? (s : Service) : Option Service :=
  (List.range s.turns.length).findSome? fun k => parts.findSome? fun part => s.step k part

def workOf (p : Performance) : Nat :=
  match p.streamed with
  | .ok plan => 4 * plan.increments.length + 8
  | .error _ => 2

def workOfTurn (t : Turn) : Nat :=
  match t.stage with
  | .asked _ => 1 + workOf Generator.encore
  | .generating p _ => workOf p
  | .replied _ => 1
  | .answered _ => 0
  | .streaming feed relay =>
    4 * feed.increments.length + (if relay.source.senderOpen then 1 else 0) + relay.stepsLeft

/-- A bound on the steps that can be made before time has to pass. -/
def work (s : Service) : Nat :=
  (s.generator.script.map workOf).foldr (· + ·) 0 + (s.turns.map workOfTurn).foldr (· + ·) 0

def steps : Nat → Service → Service
  | 0, s => s
  | n + 1, s =>
    match s.next? with
    | some s => steps n s
    | none => s

def settle (s : Service) : Service :=
  steps s.work s

/-- The times that a turn waits for. -/
def timers (t : Turn) : List Nat :=
  match t.stage with
  | .generating _ due => [due]
  | .streaming feed relay => if relay.source.senderOpen then [feed.due] else []
  | _ => []

def nextTimer? (s : Service) : Option Nat :=
  ((s.turns.flatMap timers).filter (s.now < ·)).min?

/-- Lets time pass up to a moment, in at most `n` leaps, running everything on the way. -/
def leapTo (moment : Nat) : Nat → Service → Service
  | 0, s => settle { s with now := max s.now moment }
  | n + 1, s =>
    match s.nextTimer? with
    | some t =>
      if t ≤ moment then leapTo moment n (settle { s with now := t })
      else { s with now := max s.now moment }
    | none => { s with now := max s.now moment }

def advance (s : Service) (ms : Nat) : Service :=
  leapTo (s.now + ms) ms s.settle

end Service

end Parley
